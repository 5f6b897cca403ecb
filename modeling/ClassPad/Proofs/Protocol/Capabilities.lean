import ClassPad.Proofs.Decode.Normal
import ClassPad.Protocol.Capabilities

/-!
What a client declares, on the wire. Capabilities are read back as they are written. A flag in what
a client sends is the Boolean at the end of a path of members, each of which may be left out or
null; on the way, a record may be an object or an array.
-/

set_option autoImplicit false
set_option relaxedAutoImplicit false

namespace ClassPad

namespace Flags

def flagAt (value : Json) (path : List String) : Bool :=
  ((path.foldl (fun acc key => acc.bind (Json.get? key)) (some value)).bind Json.bool?).getD false

private theorem foldl_none (path : List String) :
    path.foldl (fun acc key => acc.bind (Json.get? key)) none = none := by
  induction path with
  | nil => rfl
  | cons key path ih => exact ih

private theorem flagAt_null (path : List String) : flagAt .null path = false := by
  cases path with
  | nil => rfl
  | cons key path =>
    rw [flagAt, List.foldl_cons, Option.bind_some]
    exact congrArg (fun o => (Option.bind o Json.bool?).getD false) (foldl_none path)

private theorem flagAt_cons (value : Json) (key : String) (path : List String) :
    flagAt value (key :: path) = flagAt ((value.get? key).getD .null) path := by
  rw [flagAt, List.foldl_cons, Option.bind_some]
  cases value.get? key with
  | none =>
    rw [foldl_none, Option.getD_none, flagAt_null]
    rfl
  | some v => rfl

end Flags

namespace Shape

/-- A path of optional members that ends at a Boolean. -/
inductive Flagged : Shape → List String → Prop
  | here : Flagged .bool []
  | member {name key : String} {fields : List Field} {shape : Shape} {path : List String} :
      (fields.map Prod.fst).Nodup → fields.lookup key = some (.optional, shape) →
      Flagged shape path → Flagged (.record name fields) (key :: path)

def givenAt : Shape → List String → Json → Option Json
  | _, [], value => some value
  | .record _ fields, key :: path, value =>
    (fields.lookup key).bind fun field => (given fields key value).bind (givenAt field.2 path)
  | _, _ :: _, _ => none

private theorem givenAt_null {shape : Shape} {path : List String} (h : Flagged shape path) :
    givenAt shape path .null ≠ some (.bool true) := by
  cases h with
  | here => simp [givenAt]
  | @member name key fields shape path hnodup hlookup hpath =>
    rw [givenAt, hlookup]
    simp [given]

private theorem readPresent_optional {read : Json → Except DecodeError Json} {value : Json}
    {result : Option Json} (h : readPresent .optional read value = .ok result) :
    value = .null ∧ result = none ∨ read value = .ok (result.getD .null) := by
  unfold readPresent at h
  split at h
  · exact .inl ⟨rfl, (Except.ok.inj h).symm⟩
  -- the next three are the members of other kinds
  · contradiction
  · contradiction
  · contradiction
  · right
    split at h
    · rename_i hread
      rw [← Except.ok.inj h, hread]
      rfl
    · rename_i v hread
      rw [← Except.ok.inj h, hread]
      rfl
    · contradiction

/-- A flag is set in the normal form of a value if and only if the value gives true. -/
theorem flagAt_iff {shape : Shape} {path : List String} (h : Flagged shape path)
    {standing : Standing} {value normal : Json} (hread : readAs shape standing value = .ok normal) :
    Flags.flagAt normal path = true ↔ givenAt shape path value = some (.bool true) := by
  induction h generalizing value normal with
  | here =>
    cases value with
    | bool b =>
      obtain rfl : Json.bool b = normal := by simpa [readAs] using hread
      simp [Flags.flagAt, givenAt, Json.bool?]
    | _ => simp [readAs] at hread
  | @member name key fields shape path hnodup hlookup hpath ih =>
    have hgiven := readGiven_given hnodup hread (mem_of_lookup hlookup)
    rw [Flags.flagAt_cons, givenAt, hlookup, Option.bind_some]
    cases hvalue : given fields key value with
    | none =>
      rw [hvalue] at hgiven
      rw [← Except.ok.inj hgiven, Option.getD_none, Flags.flagAt_null]
      simp
    | some v =>
      rw [hvalue] at hgiven
      rw [Option.bind_some]
      rcases readPresent_optional hgiven with ⟨rfl, hnone⟩ | hv
      · rw [hnone, Option.getD_none, Flags.flagAt_null]
        simp [givenAt_null hpath]
      · exact ih hv

end Shape

namespace Protocol

open Shape (Flagged)

private theorem flagged_configuration : Flagged clientCapabilities ["workspace", "configuration"] :=
  .member (by decide) rfl (.member (by decide) rfl .here)

private theorem flagged_workspaceFolders :
    Flagged clientCapabilities ["workspace", "workspaceFolders"] :=
  .member (by decide) rfl (.member (by decide) rfl .here)

private theorem flagged_relatedInformation :
    Flagged clientCapabilities ["textDocument", "publishDiagnostics", "relatedInformation"] :=
  .member (by decide) rfl (.member (by decide) rfl (.member (by decide) rfl .here))

end Protocol

namespace Flags

private theorem getD_false_iff {o : Option Bool} : o.getD false = true ↔ o = some true := by
  cases o <;> simp

theorem configuration_ofClient {c : ClientCapabilities} :
    (ofClient c).configuration = true ↔
      ∃ w, c.workspace = some w ∧ w.configuration = some true := by
  rw [ofClient, getD_false_iff, Option.bind_eq_some_iff]

theorem workspaceFolders_ofClient {c : ClientCapabilities} :
    (ofClient c).workspaceFolders = true ↔
      ∃ w, c.workspace = some w ∧ w.workspaceFolders = some true := by
  rw [ofClient, getD_false_iff, Option.bind_eq_some_iff]

theorem relatedInformation_ofClient {c : ClientCapabilities} :
    (ofClient c).relatedInformation = true ↔
      ∃ d, c.textDocument = some d ∧ ∃ p, d.publishDiagnostics = some p ∧
        p.relatedInformation = some true := by
  rw [ofClient, getD_false_iff, Option.bind_assoc, Option.bind_eq_some_iff]
  simp only [Option.bind_eq_some_iff]

private theorem ofClient_ofNormal (value : Json) :
    ofClient (.ofNormal value) =
      ⟨flagAt value ["workspace", "configuration"], flagAt value ["workspace", "workspaceFolders"],
        flagAt value ["textDocument", "publishDiagnostics", "relatedInformation"]⟩ := by
  simp only [ofClient, ClientCapabilities.ofNormal, flagAt, List.foldl_cons, List.foldl_nil,
    Option.bind_some, mk.injEq]
  refine ⟨?configuration, ?workspaceFolders, ?relatedInformation⟩
  case configuration => cases value.get? "workspace" <;> rfl
  case workspaceFolders => cases value.get? "workspace" <;> rfl
  case relatedInformation =>
    cases value.get? "textDocument" with
    | none => rfl
    | some d =>
      cases hpublish : d.get? "publishDiagnostics" <;>
        simp [hpublish, ClientCapabilities.flagIn]

/-- The flags of what a client sends are the Booleans that it gives. -/
theorem ofClient_of_read {value normal : Json}
    (h : Protocol.clientCapabilities.read value = .ok normal) :
    ((ofClient (.ofNormal normal)).configuration = true ↔
      Protocol.clientCapabilities.givenAt ["workspace", "configuration"] value =
        some (.bool true)) ∧
    ((ofClient (.ofNormal normal)).workspaceFolders = true ↔
      Protocol.clientCapabilities.givenAt ["workspace", "workspaceFolders"] value =
        some (.bool true)) ∧
    ((ofClient (.ofNormal normal)).relatedInformation = true ↔
      Protocol.clientCapabilities.givenAt
        ["textDocument", "publishDiagnostics", "relatedInformation"] value =
          some (.bool true)) := by
  rw [ofClient_ofNormal]
  exact ⟨Shape.flagAt_iff Protocol.flagged_configuration h,
    Shape.flagAt_iff Protocol.flagged_workspaceFolders h,
    Shape.flagAt_iff Protocol.flagged_relatedInformation h⟩

end Flags

/-! Capabilities as a client writes them -/

open Shape (Fits FitsIfThere readAs)

def WorkspaceCapabilities.members (w : WorkspaceCapabilities) : List (String × Option Json) :=
  [("configuration", w.configuration.map .bool), ("workspaceFolders", w.workspaceFolders.map .bool)]

def PublishCapabilities.members (p : PublishCapabilities) : List (String × Option Json) :=
  [("relatedInformation", p.relatedInformation.map .bool)]

def DocumentCapabilities.members (d : DocumentCapabilities) : List (String × Option Json) :=
  [("publishDiagnostics", d.publishDiagnostics.map fun p => .ofPresent p.members)]

def ClientCapabilities.members (c : ClientCapabilities) : List (String × Option Json) :=
  [ ("workspace", c.workspace.map fun w => .ofPresent w.members),
    ("textDocument", c.textDocument.map fun d => .ofPresent d.members) ]

def ClientCapabilities.toJson (c : ClientCapabilities) : Json := .ofPresent c.members

namespace Protocol

variable {standing : Standing}

private theorem readAs_workspace (w : WorkspaceCapabilities) :
    readAs workspaceCapabilities standing (.ofPresent w.members) = .ok (.ofPresent w.members) := by
  refine Shape.readAs_ofPresent_of_optional _ (by decide) (by decide)
    (by simp [WorkspaceCapabilities.members]) ?_
  simp only [WorkspaceCapabilities.members, List.forall_mem_cons]
  exact ⟨.map (Shape.fits_bool rfl) _, .map (Shape.fits_bool rfl) _, by simp⟩

private theorem readAs_publish (p : PublishCapabilities) :
    readAs publishDiagnostics standing (.ofPresent p.members) = .ok (.ofPresent p.members) := by
  refine Shape.readAs_ofPresent_of_optional _ (by decide) (by decide)
    (by simp [PublishCapabilities.members]) ?_
  simp only [PublishCapabilities.members, List.forall_mem_cons]
  exact ⟨.map (Shape.fits_bool rfl) _, by simp⟩

private theorem readAs_document (d : DocumentCapabilities) :
    readAs documentCapabilities standing (.ofPresent d.members) = .ok (.ofPresent d.members) := by
  refine Shape.readAs_ofPresent_of_optional _ (by decide) (by decide)
    (by simp [DocumentCapabilities.members]) ?_
  simp only [DocumentCapabilities.members, List.forall_mem_cons]
  refine ⟨.map (fun p => ?_) _, by simp⟩
  exact ⟨.optional, publishDiagnostics, rfl, readAs_publish p, Shape.ofPresent_ne_null _⟩

private theorem readAs_client (c : ClientCapabilities) :
    readAs clientCapabilities standing c.toJson = .ok c.toJson := by
  refine Shape.readAs_ofPresent_of_optional _ (by decide) (by decide)
    (by simp [ClientCapabilities.members]) ?_
  simp only [ClientCapabilities.members, List.forall_mem_cons]
  refine ⟨.map (fun w => ?_) _, .map (fun d => ?_) _, by simp⟩
  · exact ⟨.optional, workspaceCapabilities, rfl, readAs_workspace w, Shape.ofPresent_ne_null _⟩
  · exact ⟨.optional, documentCapabilities, rfl, readAs_document d, Shape.ofPresent_ne_null _⟩

end Protocol

namespace ClientCapabilities

private theorem bind_bool?_map (o : Option Bool) : (o.map Json.bool).bind Json.bool? = o := by
  cases o <;> rfl

private theorem flagIn_ofPresent {members : List (String × Option Json)}
    (hnodup : (members.map Prod.fst).Nodup) (key : String) :
    flagIn (.ofPresent members) key = (members.lookup key).join.bind Json.bool? :=
  congrArg (Option.bind · Json.bool?) (Shape.get?_ofPresent hnodup key)

private theorem map_ofPresent {α : Type} (members : α → List (String × Option Json))
    {read : Json → α} (hread : ∀ x, read (.ofPresent (members x)) = x) (o : Option α) :
    (o.map fun x => Json.ofPresent (members x)).map read = o := by
  cases o with
  | none => rfl
  | some x => exact congrArg some (hread x)

private theorem ofNormal_toJson (c : ClientCapabilities) : ofNormal c.toJson = c := by
  have hget : ∀ key, c.toJson.get? key = (c.members.lookup key).join :=
    Shape.get?_ofPresent (by simp [members])
  have hworkspace : (c.toJson.get? "workspace").map (fun w => WorkspaceCapabilities.mk
      (flagIn w "configuration") (flagIn w "workspaceFolders")) = c.workspace := by
    rw [hget]
    refine map_ofPresent WorkspaceCapabilities.members (fun w => ?_) c.workspace
    have hflag : ∀ key, flagIn (.ofPresent w.members) key =
        (w.members.lookup key).join.bind Json.bool? :=
      flagIn_ofPresent (by simp [WorkspaceCapabilities.members])
    rw [hflag, hflag]
    exact congrArg₂ _ (bind_bool?_map _) (bind_bool?_map _)
  have hdocument : (c.toJson.get? "textDocument").map (fun d => DocumentCapabilities.mk
      ((d.get? "publishDiagnostics").map fun p =>
        PublishCapabilities.mk (flagIn p "relatedInformation"))) = c.textDocument := by
    rw [hget]
    refine map_ofPresent DocumentCapabilities.members (fun d => ?_) c.textDocument
    rw [Shape.get?_ofPresent (by simp [DocumentCapabilities.members])]
    refine congrArg DocumentCapabilities.mk
      (map_ofPresent PublishCapabilities.members (fun p => ?_) d.publishDiagnostics)
    rw [flagIn_ofPresent (by simp [PublishCapabilities.members])]
    exact congrArg PublishCapabilities.mk (bind_bool?_map _)
  rw [ofNormal, hworkspace, hdocument]

theorem read_toJson (c : ClientCapabilities) :
    (Protocol.clientCapabilities.read c.toJson).map ofNormal = .ok c := by
  rw [Shape.read, Protocol.readAs_client, Except.map, ofNormal_toJson]

end ClientCapabilities

end ClassPad
