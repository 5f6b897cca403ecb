import ClassPad.Proofs.Catalog.Admission
import ClassPad.Proofs.Decode.Normal
import ClassPad.Rpc.Conversation

/-!
Catalogs on the wire. Entries and items are written as objects that the record of their form reads
as they stand: so entries are read back from JSON, and an item that an editor sends back comes
again as it was sent.
-/

set_option autoImplicit false
set_option relaxedAutoImplicit false

namespace ClassPad

open Shape (Fits FitsIfThere readAs)

/-! Entries -/

namespace Entry

private theorem nodup_fields : (fields.map Prod.fst).Nodup := by
  simp [fields]

private theorem nodup_members (e : Entry) : (e.members.map Prod.fst).Nodup := by simp [members]

private theorem name_mem_all (k : EntryKind) : k.name ∈ EntryKind.all.map EntryKind.name := by
  cases k <;> simp [EntryKind.all]

private theorem ofName?_name (k : EntryKind) : EntryKind.ofName? k.name = some k := by
  cases k <;> decide

private theorem fits_members (standing : Standing) (e : Entry) :
    ∀ m ∈ e.members, FitsIfThere fields standing m := by
  simp only [members, List.forall_mem_cons]
  refine ⟨?label, ?kind, ?detail, ?documentation, ?insertText, ?command, by simp⟩
  case label => exact (Shape.fits_text rfl e.label).some
  case kind => exact (Shape.fits_choice rfl (name_mem_all e.kind)).some
  case detail => exact .map (Shape.fits_text rfl) e.detail
  case documentation => exact .map (Shape.fits_text rfl) e.documentation
  case insertText => exact (Shape.fits_text rfl e.insertText).some
  case command =>
    refine .map (fun c => Shape.fits_choice rfl ?_) e.command
    cases c
    exact List.mem_singleton_self _

private theorem readAs_toJson (standing : Standing) (e : Entry) :
    readAs shape standing e.toJson = .ok e.toJson := by
  refine Shape.readAs_ofPresent "CompletionEntry" nodup_fields e.nodup_members
    (e.fits_members standing) ?_
  simp [fields, members, List.lookup_cons]

private theorem member?_toJson (e : Entry) (key : String) :
    member? e.toJson key = (e.members.lookup key).join.bind Json.str? :=
  congrArg (Option.bind · Json.str?) (Shape.get?_ofPresent e.nodup_members key)

private theorem bind_str?_map (o : Option String) : (o.map Json.str).bind Json.str? = o := by
  cases o <;> rfl

private theorem ofNormal_toJson (e : Entry) : ofNormal e.toJson = e := by
  have hlabel : member? e.toJson "label" = some e.label := member?_toJson e "label"
  have hkind : member? e.toJson "kind" = some e.kind.name := member?_toJson e "kind"
  have hdetail : member? e.toJson "detail" = e.detail :=
    (member?_toJson e "detail").trans (bind_str?_map e.detail)
  have hdocumentation : member? e.toJson "documentation" = e.documentation :=
    (member?_toJson e "documentation").trans (bind_str?_map e.documentation)
  have hinsert : member? e.toJson "insert_text" = some e.insertText :=
    member?_toJson e "insert_text"
  have hcommand : (member? e.toJson "command").map (fun _ => EntryCommand.outdent) = e.command := by
    rw [member?_toJson]
    rcases e with ⟨_, _, _, _, _, _ | ⟨⟩⟩ <;> rfl
  rw [ofNormal, hlabel, hkind, hdetail, hdocumentation, hinsert, hcommand, Option.bind_some,
    ofName?_name]
  rfl

private theorem decodeList_toJson (entries : List Entry) :
    decodeList (.arr (entries.map toJson)) = .ok entries := by
  have hself : ∀ v ∈ entries.map toJson, readAs shape .direct v = .ok v := by
    intro v hv
    obtain ⟨e, -, rfl⟩ := List.mem_map.mp hv
    exact readAs_toJson .direct e
  have hread : (Shape.list shape).read (.arr (entries.map toJson)) =
      .ok (.arr (entries.map toJson)) := by
    rw [Shape.read, readAs, Shape.mapM_of_self hself]
    rfl
  have hback : (entries.map toJson).map ofNormal = entries := by
    rw [List.map_map]
    exact List.map_id'' ofNormal_toJson entries
  rw [decodeList, hread]
  simp only [hback]

end Entry

/-! Items -/

namespace EntryCommand

private theorem fits_members (standing : Standing) (c : EntryCommand) :
    ∀ m ∈ c.members, FitsIfThere Protocol.commandFields standing m := by
  cases c
  simp only [members, List.forall_mem_cons]
  refine ⟨?title, ?command, by simp⟩
  case title => exact (Shape.fits_text rfl "Outdent").some
  case command => exact (Shape.fits_text rfl "editor.action.outdentLines").some

private theorem readAs_toJson (standing : Standing) (c : EntryCommand) :
    readAs Protocol.command standing c.toJson = .ok c.toJson := by
  refine Shape.readAs_ofPresent "Command" ?_ ?_ (c.fits_members standing) ?_
  · simp [Protocol.commandFields, Shape.req, Shape.opt]
  · cases c
    simp [members]
  · cases c
    simp [Protocol.commandFields, Shape.req, Shape.opt, members, List.lookup_cons]

end EntryCommand

namespace Item

private theorem nodup_fields : (fields.map Prod.fst).Nodup := by
  simp [fields, Shape.req, Shape.opt]

private theorem nodup_members (i : Item) : (i.members.map Prod.fst).Nodup := by simp [members]

private theorem fits_number {key : String} {standing : Standing}
    (hfield : fields.lookup key = some (.optional, Shape.i32)) {n : Nat}
    (hn : n ≤ 2147483647) : Fits fields standing key (.nat n) :=
  Shape.fits_int hfield (by omega) (by omega)

private theorem fits_documentation (standing : Standing) (s : String) :
    Fits fields standing "documentation" (.str s) :=
  ⟨.optional, _, rfl, by simp [readAs, Shape.readFirst], by simp⟩

private theorem fits_command (standing : Standing) (c : EntryCommand) :
    Fits fields standing "command" c.toJson :=
  ⟨.optional, _, rfl, c.readAs_toJson standing,
    Shape.ofPresent_ne_null _⟩

private theorem fits_members (standing : Standing) {i : Item} (hkind : i.kind ≤ 2147483647)
    (hformat : i.insertTextFormat ≤ 2147483647) :
    ∀ m ∈ i.members, FitsIfThere fields standing m := by
  simp only [members, List.forall_mem_cons]
  refine ⟨?label, ?kind, ?detail, ?documentation, ?insertText, ?format, ?command, by simp⟩
  case label => exact (Shape.fits_text rfl i.label).some
  case kind => exact (fits_number rfl hkind).some
  case detail => exact .map (Shape.fits_text rfl) i.detail
  case documentation => exact .map (fits_documentation standing) i.documentation
  case insertText => exact (Shape.fits_text rfl i.insertText).some
  case format => exact (fits_number rfl hformat).some
  case command => exact .map (fits_command standing) i.command

private theorem readAs_toJson (standing : Standing) {i : Item} (hkind : i.kind ≤ 2147483647)
    (hformat : i.insertTextFormat ≤ 2147483647) :
    readAs shape standing i.toJson = .ok i.toJson := by
  refine Shape.readAs_ofPresent "CompletionItem" nodup_fields i.nodup_members
    (fits_members standing hkind hformat) ?_
  simp [fields, members, Shape.req, Shape.opt, List.lookup_cons]

/-- The command that a normal form stands for, by the name that the editor knows it by. -/
def commandOfNormal (value : Json) : Option EntryCommand :=
  if Entry.member? value "command" = some "editor.action.outdentLines" then some .outdent else none

def ofNormal (value : Json) : Item where
  label := (Entry.member? value "label").getD ""
  kind := Protocol.natAt value "kind"
  detail := Entry.member? value "detail"
  documentation := Entry.member? value "documentation"
  insertText := (Entry.member? value "insertText").getD ""
  insertTextFormat := Protocol.natAt value "insertTextFormat"
  command := (value.get? "command").bind commandOfNormal

/-- The item that a value in JSON stands for. -/
def decode (value : Json) : Except DecodeError Item := (shape.read value).map ofNormal

private theorem get?_toJson (i : Item) (key : String) :
    i.toJson.get? key = (i.members.lookup key).join :=
  Shape.get?_ofPresent i.nodup_members key

private theorem ofNormal_toJson (i : Item) : ofNormal i.toJson = i := by
  have htext : ∀ key, Entry.member? i.toJson key = (i.members.lookup key).join.bind Json.str? :=
    fun key => congrArg (Option.bind · Json.str?) (i.get?_toJson key)
  have hdetail : Entry.member? i.toJson "detail" = i.detail :=
    (htext "detail").trans (Entry.bind_str?_map i.detail)
  have hdocumentation : Entry.member? i.toJson "documentation" = i.documentation :=
    (htext "documentation").trans (Entry.bind_str?_map i.documentation)
  have hcommand : (i.toJson.get? "command").bind commandOfNormal = i.command := by
    rw [get?_toJson]
    rcases i with ⟨_, _, _, _, _, _, _ | ⟨⟩⟩ <;> rfl
  have hlabel : Entry.member? i.toJson "label" = some i.label := htext "label"
  have hinsert : Entry.member? i.toJson "insertText" = some i.insertText := htext "insertText"
  have hnumber : ∀ key, Protocol.natAt i.toJson key =
      (((i.members.lookup key).join.bind Json.int?).getD 0).toNat := fun key => by
    rw [Protocol.natAt, get?_toJson]
  have hkind : Protocol.natAt i.toJson "kind" = i.kind := hnumber "kind"
  have hformat : Protocol.natAt i.toJson "insertTextFormat" = i.insertTextFormat :=
    hnumber "insertTextFormat"
  rw [ofNormal, hlabel, hkind, hdetail, hdocumentation, hinsert, hformat, hcommand]
  rfl

end Item

private theorem Entry.resolve_toItem (e : Entry) :
    Item.resolve e.toItem.toJson = .ok e.toItem.toJson := by
  have hkind : e.toItem.kind ≤ 2147483647 := by
    cases h : e.kind <;> simp [Entry.toItem, h, EntryKind.code]
  have hformat : e.toItem.insertTextFormat ≤ 2147483647 := by
    cases h : e.kind <;> simp [Entry.toItem, h, EntryKind.hasSlots]
  exact Item.readAs_toJson .direct hkind hformat

private theorem Entry.decode_toItem (e : Entry) : Item.decode e.toItem.toJson = .ok e.toItem := by
  have hread : Item.shape.read e.toItem.toJson = .ok e.toItem.toJson := e.resolve_toItem
  rw [Item.decode, hread, Except.map, Item.ofNormal_toJson]

/-! Conversations -/

namespace Rpc.Conversation

/-- The client has no part in what a call is answered. -/
theorem answer_perform (v : Conversation) (call : Call) :
    (v.perform call).2.1 = (v.server.call call).2.1 := by
  unfold perform
  cases v.client <;> rfl

private theorem response_request {v : Conversation} {shape : Shape} {value normal : Json}
    (call : Json → Call) (id : Id) (h : shape.read value = .ok normal) :
    (v.request shape call id (some value)).2.response =
      some ⟨id, .ok (v.server.call (call normal)).2.1.toJson⟩ := by
  have hparams : paramsOf shape (some value) = .ok normal := by simp only [paramsOf, h]
  rw [request, hparams, ← answer_perform]

private theorem response_resolve {v : Conversation} (hphase : v.phase = .running) (id : Id)
    {value normal : Json} (h : Item.resolve value = .ok normal) :
    (v.receive ⟨"completionItem/resolve", some value, some id⟩).2.response =
      some ⟨id, .ok normal⟩ := by
  have hmethod : Method.ofName? "completionItem/resolve" =
      some (.request Item.shape .resolve) := rfl
  rw [receive, hmethod]
  simp only [hphase, ne_eq, not_true_eq_false, if_false]
  exact response_request .resolve id h

end Rpc.Conversation

namespace Catalog

variable {entries : List Entry} {c : Catalog}

private theorem ofEntries_entries (h : ofEntries entries = .ok c) :
    ofEntries c.entries = .ok c := by
  obtain ⟨-, -, rfl⟩ := ofEntries_eq_ok_iff.mp h
  exact h

/-- The entries of a catalog are read back from JSON, and they are the same catalog again. So is an
item that the catalog offers; it is read as it is written, and an editor that sends it to have it
completed gets the same item. -/
theorem wire_round_trips (h : ofEntries entries = .ok c) :
    (∃ decoded again, Entry.decodeList (.arr (c.entries.map Entry.toJson)) = .ok decoded ∧
      decoded = c.entries ∧ ofEntries decoded = .ok again ∧ again.entries = c.entries ∧
        again.items = c.items) ∧
    ∀ i ∈ c.items, Item.decode i.toJson = .ok i ∧ Item.resolve i.toJson = .ok i.toJson ∧
      ∀ (v : Rpc.Conversation) (id : Rpc.Id), v.phase = .running →
        (v.receive ⟨"completionItem/resolve", some i.toJson, some id⟩).2.response =
          some ⟨id, .ok i.toJson⟩ := by
  refine ⟨⟨c.entries, c, Entry.decodeList_toJson _, rfl, ofEntries_entries h, rfl, rfl⟩, ?_⟩
  intro i hi
  obtain ⟨e, -, rfl⟩ := List.mem_map.mp hi
  refine ⟨e.decode_toItem, e.resolve_toItem, fun v id hphase => ?_⟩
  exact Rpc.Conversation.response_resolve hphase id e.resolve_toItem

/-- A catalog of an entry with all that an entry can have and of one with nothing to spare. -/
theorem wire_round_trips_full_and_bare :
    let entries : List Entry :=
      [ ⟨"If\n\"", .snippet, some "", some "é", "If\t", some .outdent⟩,
        ⟨"⇒", .operator, none, none, "", none⟩ ]
    let conversation : Rpc.Conversation :=
      { server := { catalog := ⟨entries⟩ }, phase := .running }
    ofEntries entries = .ok ⟨entries⟩ ∧
      Entry.decodeList (.arr (entries.map Entry.toJson)) = .ok entries ∧
      ∀ i ∈ entries.map Entry.toItem, Item.decode i.toJson = .ok i ∧
        Item.resolve i.toJson = .ok i.toJson ∧
        (conversation.receive ⟨"completionItem/resolve", some i.toJson, some (.int 7)⟩).2.response =
          some ⟨.int 7, .ok i.toJson⟩ := by
  intro entries conversation
  have hok : ofEntries entries = .ok ⟨entries⟩ :=
    ofEntries_eq_ok_iff.mpr ⟨by simp [entries], by decide +kernel, rfl⟩
  obtain ⟨⟨decoded, again, hdecoded, rfl, -⟩, hitems⟩ := wire_round_trips hok
  refine ⟨hok, hdecoded, fun i hi => ?_⟩
  obtain ⟨hdecode, hresolve, hanswer⟩ := hitems i hi
  exact ⟨hdecode, hresolve, hanswer conversation (.int 7) rfl⟩

end Catalog

end ClassPad
