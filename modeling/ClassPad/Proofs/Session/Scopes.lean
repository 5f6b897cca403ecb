import ClassPad.Proofs.Session.Facet

/-!
Two ways to the same settings. A client that pushes its configuration and one that is asked for it,
document by document, see the same diagnostics, as long as the values can be used and the second
client answers at once. Seen from one document, the entry of the second server holds the current
value whenever there is one, which is what the first server holds for all documents.
-/

set_option autoImplicit false
set_option relaxedAutoImplicit false

namespace ClassPad.Session

open Server (published)

/-- What happens in a session whichever way the settings come. -/
inductive Event where
  | opened (uri : Uri) (text : List Char) (version : Int)
  | changed (uri : Uri) (edits : List Edit) (version : Int)
  | closed (uri : Uri)
  /-- The configuration takes a value. A client that is asked for it sends any payload along. -/
  | reconfigured (value payload : Json)

namespace Event

def push (value : Json) : Step := .call (.configured (.obj [(Settings.sectionName, value)]))

def pushed : Event → List Step
  | .opened uri text version => [.call (.opened uri text version)]
  | .changed uri edits version => [.call (.changed uri edits version)]
  | .closed uri => [.call (.closed uri)]
  | .reconfigured value _ => [push value]

def asked : Event → List Step
  | .opened uri text version => [.call (.opened uri text version)]
  | .changed uri edits version => [.call (.changed uri edits version)]
  | .closed uri => [.call (.closed uri)]
  | .reconfigured value payload => [.configure none (.values [value]), .call (.configured payload)]

def value? : Event → Option Json
  | .reconfigured value _ => some value
  | _ => none

end Event

/-! Runs of a facet -/

def Facet.run (x : Facet) (uri : Uri) : List Step → Facet × List Effect
  | [] => (x, [])
  | i :: rest =>
    let (next, done) := x.step uri i
    let (last, more) := next.run uri rest
    (last, done ++ more)

private theorem Facet.run_append (x : Facet) (uri : Uri) (first second : List Step) :
    x.run uri (first ++ second) =
      (((x.run uri first).1.run uri second).1,
        (x.run uri first).2 ++ ((x.run uri first).1.run uri second).2) := by
  induction first generalizing x with
  | nil => rfl
  | cons i rest ih =>
    simp only [List.cons_append, run, ih, List.append_assoc]

private theorem published_about {uri : Uri} {effects : List Marked} (h : ∀ m ∈ effects, m.Apt) :
    published uri (about uri effects) = published uri (effects.map Prod.snd) := by
  induction effects with
  | nil => rfl
  | cons m rest ih =>
    obtain ⟨mark, effect⟩ := m
    have hfirst := h (mark, effect) List.mem_cons_self
    have hrest := ih fun n hn => h n (List.mem_cons_of_mem _ hn)
    have hcons : ∀ (e : Effect) (more : List Effect),
        published uri (e :: more) = published uri [e] ++ published uri more := fun e more =>
      Server.published_append uri [e] more
    rw [List.map_cons, hcons, ← hrest]
    by_cases hmark : mark = some uri
    · have hsame : published uri [effect.unnumbered] = published uri [effect] := by
        cases effect <;> rfl
      rw [about_cons_of_eq hmark, hcons, hsame]
    · have hnone : published uri [effect] = [] := by
        cases effect with
        | publish other diagnostics =>
          have hother : other ≠ uri := fun heq => hmark (heq ▸ hfirst)
          simp [published, hother]
        | _ => rfl
      rw [about_cons_of_ne hmark, hnone, List.nil_append]

/-- What a session at rest publishes for a document in a run is what its facet publishes. -/
theorem published_run {x : Session} {log : List Effect} (h : Rests x log)
    (honce : x.server.openUris.Nodup) (uri : Uri) (steps : List Step) :
    published uri (x.run steps).2 = published uri ((x.facet uri).run uri steps).2 := by
  induction steps generalizing x log with
  | nil => rfl
  | cons i rest ih =>
    have hnext := ih (rests_step h i) (nodup_openUris_step honce i)
    have hstep := facet_step h honce uri i
    simp only [run, Facet.run, Server.published_append, hnext, ← hstep]
    rw [published_about (x.apt_markedStep i), map_snd_markedStep]

/-! The two ways side by side -/

/-- Facets of one document in two sessions with the same current settings: they are pushed in the
first one and asked for in the second one, whose client answers at once. -/
structure Alike (x y : Facet) : Prop where
  document : x.server.document = y.server.document
  related : (x.server.negotiated.getD {}).relatedInformation =
    (y.server.negotiated.getD {}).relatedInformation
  pushed : x.server.scope = .global
  asked : y.server.scope = .perResource
  free : y.client.stalled = false
  own : y.client.own = none
  reply : y.client.fallback.outcome = .ok x.server.shared
  entry : y.server.entry = none ∨ y.server.entry = some (some (.ok x.server.shared))
  waiting : y.server.waiting = 0

section Alike

variable {x y : Facet} {uri : Uri}

private theorem hear_conclude (c : Client.Facet) (f g : Server.Facet) (o : Outcome) :
    c.hear uri g (f.conclude uri o) = (g, f.conclude uri o) := by
  cases o with
  | error e => rfl
  | ok settings =>
    rw [Server.Facet.conclude]
    cases f.document <;> rfl

private theorem Alike.conclude_eq (h : Alike x y) (o : Outcome) :
    x.server.conclude uri o = y.server.conclude uri o := by
  cases o with
  | error e => rfl
  | ok settings => simp only [Server.Facet.conclude, h.document, h.related]

private theorem Alike.hear_start_pushed (h : Alike x y) (uri : Uri) :
    x.client.hear uri (x.server.start uri).1 (x.server.start uri).2 =
      (x.server, x.server.conclude uri (.ok x.server.shared)) := by
  simp only [Server.Facet.start, h.pushed]
  exact hear_conclude x.client x.server x.server _

private theorem Alike.hear_start_asked (h : Alike x y) (uri : Uri) :
    ∃ requests, published uri requests = [] ∧
      y.client.hear uri (y.server.start uri).1 (y.server.start uri).2 =
        ({ y.server with entry := some (some (.ok x.server.shared)) },
          requests ++ y.server.conclude uri (.ok x.server.shared)) := by
  rcases h.entry with hentry | hentry
  · have hsettle : ({ y.server with entry := some (some (.ok x.server.shared)) },
          y.server.conclude uri (.ok x.server.shared)) =
        Server.Facet.settle { y.server with entry := some none, waiting := y.server.waiting + 1 }
          uri y.client.reply.outcome := by
      have houtcome : y.client.reply.outcome = .ok x.server.shared := by
        rw [Client.Facet.reply, h.own]
        exact h.reply
      rw [houtcome, Server.Facet.settle, Prod.mk.injEq, Server.Facet.mk.injEq]
      simp [h.waiting, Server.Facet.conclude]
    refine ⟨[.request 0 uri], rfl, ?_⟩
    simp only [Server.Facet.start, h.asked, hentry]
    rw [Client.Facet.hear_of_settled (by simp [peer]) h.free hsettle]
    simp [Client.Facet.hear]
  · refine ⟨[], rfl, ?_⟩
    simp only [Server.Facet.start, h.asked, hentry]
    rw [hear_conclude, List.nil_append, ← hentry]

/-- Calls that leave the facets alike, and start passes in both sessions or in none, publish the
same. -/
theorem Alike.call {c d : Call}
    (h : Alike ⟨x.client, x.server.prepare uri c⟩ ⟨y.client, y.server.prepare uri d⟩)
    (hstarts : x.server.starts uri c = y.server.starts uri d) :
    Alike (x.step uri (.call c)).1 (y.step uri (.call d)).1 ∧
      published uri (x.step uri (.call c)).2 = published uri (y.step uri (.call d)).2 := by
  simp only [Facet.step, Server.Facet.call, hstarts]
  cases y.server.starts uri d with
  | false => exact ⟨h, rfl⟩
  | true =>
    obtain ⟨requests, hquiet, hasked⟩ := h.hear_start_asked uri
    have hpushed := h.hear_start_pushed uri
    simp only at hasked hpushed
    simp only [if_true, hasked, hpushed]
    refine ⟨?_, ?_⟩
    · exact { h with entry := .inr rfl }
    · rw [Server.published_append, hquiet, List.nil_append, h.conclude_eq]

private theorem ofChangeNotification_push {value : Json} {s : Settings}
    (h : Settings.ofConfiguration value = .ok s) :
    Settings.ofChangeNotification (.obj [(Settings.sectionName, value)]) = s := by
  have hget : Json.get? Settings.sectionName (.obj [(Settings.sectionName, value)]) =
      some value := rfl
  simp only [Settings.ofChangeNotification, hget, h]

private theorem Alike.reconfigure (h : Alike x y) {value : Json} {s : Settings}
    (hvalue : Settings.ofConfiguration value = .ok s) (payload : Json) :
    Alike ⟨x.client,
        x.server.prepare uri (.configured (.obj [(Settings.sectionName, value)]))⟩
      ⟨{ y.client with fallback := .values [value] },
        y.server.prepare uri (.configured payload)⟩ := by
  simp only [Server.Facet.prepare, h.pushed, h.asked, ofChangeNotification_push hvalue]
  exact { h with reply := hvalue, entry := .inl rfl }

private theorem Alike.event (h : Alike x y) (uri : Uri) {e : Event}
    (hvalue : ∀ value ∈ e.value?, ∃ s, Settings.ofConfiguration value = .ok s) :
    Alike (x.run uri e.pushed).1 (y.run uri e.asked).1 ∧
      published uri (x.run uri e.pushed).2 = published uri (y.run uri e.asked).2 := by
  have hrun : ∀ (z : Facet) (i : Step), z.run uri [i] = z.step uri i := fun z i => by
    simp only [Facet.run, List.append_nil]
  cases e with
  | opened other text version =>
    simp only [Event.pushed, Event.asked, hrun]
    refine Alike.call ?_ rfl
    simp only [Server.Facet.prepare]
    split_ifs
    · exact { h with document := rfl }
    · exact h
  | changed other edits version =>
    simp only [Event.pushed, Event.asked, hrun]
    refine Alike.call ?_ (by simp only [Server.Facet.starts, h.document])
    simp only [Server.Facet.prepare]
    split_ifs
    · have hedited := congrArg (Option.map fun d => d.applyEdits edits version) h.document
      exact { h with document := hedited }
    · exact h
  | closed other =>
    simp only [Event.pushed, Event.asked, hrun]
    refine Alike.call ?_ rfl
    simp only [Server.Facet.prepare]
    split_ifs
    · exact { h with document := rfl, entry := .inl rfl }
    · exact h
  | reconfigured value payload =>
    obtain ⟨s, hs⟩ := hvalue value rfl
    have hasked : y.run uri (Event.reconfigured value payload).asked =
        Facet.run ⟨{ y.client with fallback := .values [value] }, y.server⟩ uri
          [.call (.configured payload)] := rfl
    rw [hasked]
    simp only [Event.pushed, Event.push, hrun]
    exact Alike.call (h.reconfigure hs payload) (by simp only [Server.Facet.starts, h.document])

private theorem Alike.run (h : Alike x y) (uri : Uri) {events : List Event}
    (hvalues : ∀ value ∈ events.filterMap Event.value?,
      ∃ s, Settings.ofConfiguration value = .ok s) :
    published uri (x.run uri (events.flatMap Event.pushed)).2 =
      published uri (y.run uri (events.flatMap Event.asked)).2 := by
  induction events generalizing x y with
  | nil => rfl
  | cons e rest ih =>
    have hfirst : ∀ value ∈ e.value?, ∃ s, Settings.ofConfiguration value = .ok s :=
      fun value hv => hvalues value (List.mem_filterMap.mpr ⟨e, List.mem_cons_self, hv⟩)
    have hrest : ∀ value ∈ rest.filterMap Event.value?,
        ∃ s, Settings.ofConfiguration value = .ok s := fun value hv => by
      obtain ⟨e', he', hv⟩ := List.mem_filterMap.mp hv
      exact hvalues value (List.mem_filterMap.mpr ⟨e', List.mem_cons_of_mem e he', hv⟩)
    obtain ⟨hnext, hpublished⟩ := h.event uri hfirst
    rw [List.flatMap_cons, List.flatMap_cons, Facet.run_append, Facet.run_append,
      Server.published_append, Server.published_append, hpublished, ih hnext hrest]

end Alike

def Facet.fresh (client : Client.Facet) (flags : Flags) : Facet where
  client := client
  server :=
    { negotiated := some flags
      fixed := some (if flags.configuration then .perResource else .global)
      shared := .standard
      document := none
      entry := none
      waiting := 0 }

private theorem facet_negotiate (catalog : Catalog) (fallback : Reply)
    (replies : List (Uri × Reply))
    (stalled : List Uri) (capabilities : ClientCapabilities) (uri : Uri) :
    ((⟨{ fallback, replies, stalled }, { catalog }⟩ : Session).step
      (.call (.negotiate capabilities))).1.facet uri =
      Facet.fresh ⟨fallback, replies.lookup uri, decide (uri ∈ stalled)⟩
        (Flags.ofClient capabilities) := rfl

/-- No document is open yet, so the first push starts no pass. -/
theorem alike_fresh {pushing asking : Flags} (hpushing : pushing.configuration = false)
    (hasking : asking.configuration = true)
    (hrelated : pushing.relatedInformation = asking.relatedInformation) {value : Json}
    {s : Settings} (hvalue : Settings.ofConfiguration value = .ok s) (client : Client.Facet)
    (uri : Uri) :
    ((Facet.fresh client pushing).step uri (Event.push value)).2 = [] ∧
      Alike ((Facet.fresh client pushing).step uri (Event.push value)).1
        (Facet.fresh ⟨.values [value], none, false⟩ asking) := by
  have hscope : (Facet.fresh client pushing).server.scope = .global := by
    simp [Facet.fresh, Server.Facet.scope, hpushing]
  have hasked : (Facet.fresh ⟨.values [value], none, false⟩ asking).server.scope =
      .perResource := by
    simp [Facet.fresh, Server.Facet.scope, hasking]
  have hstep : (Facet.fresh client pushing).step uri (Event.push value) =
      (⟨client, { (Facet.fresh client pushing).server with shared := s }⟩, []) := by
    simp only [Event.push, Facet.step, Server.Facet.call, Server.Facet.prepare, hscope,
      ofChangeNotification_push hvalue]
    rfl
  rw [hstep]
  exact ⟨rfl, rfl, hrelated, hscope, hasked, rfl, rfl, hvalue, .inl rfl, rfl⟩

/-- A configuration that is pushed and one that is asked for give the same diagnostics. Take two
sessions whose clients show notes both or not at all. The first one cannot be asked for settings and
pushes its configuration right after the negotiation; the second one can be, holds nothing back and
answers every request with its current configuration. All values that the configuration takes can be
used. Whatever happens then, in the same order in both sessions, the publications for a document are
the same after every step. -/
theorem scopes_publish_alike (catalog : Catalog) (fallback : Reply) (replies : List (Uri × Reply))
    (stalled : List Uri) (pushing asking : ClientCapabilities) (value : Json) (events : List Event)
    (hpushing : (Flags.ofClient pushing).configuration = false)
    (hasking : (Flags.ofClient asking).configuration = true)
    (hrelated : (Flags.ofClient pushing).relatedInformation =
      (Flags.ofClient asking).relatedInformation)
    (hvalues : ∀ v ∈ value :: events.filterMap Event.value?,
      ∃ s, Settings.ofConfiguration v = .ok s) (n : Nat) (uri : Uri) :
    let first : Session := ⟨{ fallback, replies, stalled }, { catalog }⟩
    let second : Session := ⟨{ fallback := .values [value] }, { catalog }⟩
    published uri (first.run (.call (.negotiate pushing) :: Event.push value ::
        (events.take n).flatMap Event.pushed)).2 =
      published uri (second.run (.call (.negotiate asking) ::
        (events.take n).flatMap Event.asked)).2 := by
  intro first second
  obtain ⟨s, hs⟩ := hvalues value List.mem_cons_self
  have hrests₁ := rests_negotiate catalog fallback replies stalled pushing
  have hrests₂ := rests_negotiate catalog (.values [value]) [] [] asking
  have hrun₁ := published_run hrests₁ List.nodup_nil uri
    (Event.push value :: (events.take n).flatMap Event.pushed)
  have hrun₂ := published_run hrests₂ List.nodup_nil uri ((events.take n).flatMap Event.asked)
  rw [facet_negotiate] at hrun₁ hrun₂
  obtain ⟨hquiet, halike⟩ := alike_fresh hpushing hasking hrelated hs
    ⟨fallback, replies.lookup uri, decide (uri ∈ stalled)⟩ uri
  have hlater : ∀ v ∈ (events.take n).filterMap Event.value?,
      ∃ s, Settings.ofConfiguration v = .ok s := fun v hv => by
    obtain ⟨e, he, hv⟩ := List.mem_filterMap.mp hv
    exact hvalues v (List.mem_cons_of_mem value
      (List.mem_filterMap.mpr ⟨e, List.mem_of_mem_take he, hv⟩))
  have hevents := halike.run uri hlater
  rw [Facet.run] at hrun₁
  simp only [hquiet, List.nil_append] at hrun₁
  exact hrun₁.trans (hevents.trans hrun₂.symm)

def reopening (uri : Uri) (value : Json) : List Event :=
  [.opened uri ['A', 'B', ' ', 'C', 'D'] 1, .reconfigured value (.str "ignored"), .closed uri,
    .opened uri ['E', 'F'] 2]

theorem scopes_publish_alike_after_reopening :
    let note : Uri := ⟨"file:///note"⟩
    let limit (n : Int) : Json := .obj [("maxNumberOfProblems", .int n)]
    let first : Session := ⟨{}, { catalog := ⟨[]⟩ }⟩
    let second : Session := ⟨{ fallback := .values [limit 1] }, { catalog := ⟨[]⟩ }⟩
    let pushed := published note (first.run (.call (.negotiate {}) :: Event.push (limit 1) ::
      ((reopening note (limit 7)).take 4).flatMap Event.pushed)).2
    let asking : ClientCapabilities := { workspace := some { configuration := some true } }
    let asked := published note (second.run (.call (.negotiate asking) ::
      ((reopening note (limit 7)).take 4).flatMap Event.asked)).2
    pushed = asked ∧ asked.map List.length = [1, 2, 1] := by
  refine ⟨?_, by decide +kernel⟩
  refine scopes_publish_alike ⟨[]⟩ (.values [.null]) [] [] {}
    { workspace := some { configuration := some true } } (.obj [("maxNumberOfProblems", .int 1)])
    (reopening ⟨"file:///note"⟩ (.obj [("maxNumberOfProblems", .int 7)])) rfl rfl rfl ?_ 4
    ⟨"file:///note"⟩
  intro v hv
  rcases List.mem_cons.mp hv with rfl | hv
  · exact ⟨⟨1⟩, by decide +kernel⟩
  · obtain rfl := List.mem_singleton.mp hv
    exact ⟨⟨7⟩, by decide +kernel⟩

end ClassPad.Session
