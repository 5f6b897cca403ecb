import ClassPad.Proofs.Session.Facet

/-!
Documents do not interfere. A step that names one document changes nothing that is stored for
another one and does nothing that concerns it; the other steps have, for that other document, the
same outcome whatever the steps in between were. This is so also for a changed configuration, which
has all documents judged anew in one step, some of which may wait for their settings.
-/

set_option autoImplicit false
set_option relaxedAutoImplicit false

namespace ClassPad.Session

def Step.names (uri : Uri) : Step → Bool
  | .configure other _ => other = some uri
  | .stall other => other = uri
  | .release other => other = uri
  | .call c => c.opens uri || c.changes uri || c.closes uri
  | .idle => false

/-- What is stored for a document: its text and its cache entry. -/
abbrev Stored := Option Document × Option (Option Outcome)

def stored (x : Session) (uri : Uri) : Stored := (x.server.find? uri, x.server.cache.status uri)

/-- A step as it looks from one document. -/
structure Glimpse where
  step : Step
  before : Stored
  effects : List Effect
  after : Stored

def glimpses (x : Session) (uri : Uri) : List Step → List Glimpse
  | [] => []
  | i :: rest =>
    ⟨i, x.stored uri, about uri (x.markedStep i), (x.step i).1.stored uri⟩ ::
      (x.step i).1.glimpses uri rest

/-! The steps of a facet -/

namespace Facet

def stored (x : Facet) : Stored := (x.server.document, x.server.entry)

def glimpses (x : Facet) (uri : Uri) : List Step → List Glimpse
  | [] => []
  | i :: rest =>
    ⟨i, x.stored, (x.step uri i).2, (x.step uri i).1.stored⟩ :: (x.step uri i).1.glimpses uri rest

variable {x : Facet} {u v : Uri} {i : Step}

private theorem call_of_names {f : Server.Facet} {c : Call} (hne : v ≠ u)
    (h : (Step.call c).names u = true) : f.call v c = (f, []) := by
  have hdiffers : ∀ other : Uri, other = u → other ≠ v := fun other heq => heq ▸ Ne.symm hne
  cases c with
  | opened other text version =>
    have hother := hdiffers other (by
      simpa [Step.names, Call.opens, Call.changes, Call.closes] using h)
    simp [Server.Facet.call, Server.Facet.starts, Server.Facet.prepare, hother]
  | changed other edits version =>
    have hother := hdiffers other (by
      simpa [Step.names, Call.opens, Call.changes, Call.closes] using h)
    simp [Server.Facet.call, Server.Facet.starts, Server.Facet.prepare, hother]
  | closed other =>
    have hother := hdiffers other (by
      simpa [Step.names, Call.opens, Call.changes, Call.closes] using h)
    simp [Server.Facet.call, Server.Facet.starts, Server.Facet.prepare, hother]
  | _ => simp [Step.names, Call.opens, Call.changes, Call.closes] at h

/-- A step that names another document passes a facet by. -/
theorem step_of_names (hne : v ≠ u) (h : i.names u = true) : x.step v i = (x, []) := by
  cases i with
  | configure other reply =>
    have hother : other = some u := by simpa [Step.names] using h
    subst hother
    simp only [step, if_neg (Ne.symm hne)]
  | stall other =>
    have hother : other = u := by simpa [Step.names] using h
    simp only [step, if_neg (hother ▸ Ne.symm hne)]
  | release other =>
    have hother : other = u := by simpa [Step.names] using h
    simp only [step, if_neg (hother ▸ Ne.symm hne)]
  | call c => simp only [step, call_of_names hne h, Client.Facet.hear]
  | idle => simp [Step.names] at h

/-- The other steps look as if the steps that name another document had not been. -/
theorem filter_glimpses (hne : v ≠ u) (steps : List Step) :
    (x.glimpses v steps).filter (fun g => !g.step.names u) =
      x.glimpses v (steps.filter fun i => !i.names u) := by
  induction steps generalizing x with
  | nil => rfl
  | cons i rest ih =>
    cases hi : i.names u with
    | true =>
      rw [glimpses, List.filter_cons_of_neg (by simp [hi]), List.filter_cons_of_neg (by simp [hi]),
        ih, step_of_names hne hi]
    | false =>
      rw [glimpses, List.filter_cons_of_pos (by simp [hi]), List.filter_cons_of_pos (by simp [hi]),
        ih, glimpses]

private theorem quiet_of_names (hne : v ≠ u) {steps : List Step} {g : Glimpse}
    (hg : g ∈ x.glimpses v steps)
    (h : g.step.names u = true) : g.effects = [] ∧ g.after = g.before := by
  induction steps generalizing x with
  | nil => exact absurd hg List.not_mem_nil
  | cons i rest ih =>
    rcases List.mem_cons.mp hg with rfl | hrest
    · simp only [step_of_names hne h, and_self]
    · exact ih hrest

end Facet

/-- The steps of a session at rest look from a document like those of its facet. -/
theorem glimpses_eq_facet {x : Session} {log : List Effect} (h : Rests x log)
    (honce : x.server.openUris.Nodup) (v : Uri) (steps : List Step) :
    x.glimpses v steps = (x.facet v).glimpses v steps := by
  induction steps generalizing x log with
  | nil => rfl
  | cons i rest ih =>
    have hstep := facet_step h honce v i
    rw [glimpses, Facet.glimpses, ih (rests_step h i) (nodup_openUris_step honce i), ← hstep]
    rfl

/-- Documents do not interfere, in runs that start with the same negotiation. Two clients that
differ only in what they answer and hold back for one document take the same steps but for those
that name it. From every other document the common steps look the same in both runs: what the server
does that concerns the document, its text and its cache entry. At the steps that name the one
document nothing changes for the other. The effects of a step are those of the session, each marked
with the document that it concerns. -/
theorem documents_isolated (catalog : Catalog) (fallback : Reply)
    (capabilities : ClientCapabilities) (u : Uri)
    {replies₁ replies₂ : List (Uri × Reply)} {stalled₁ stalled₂ : List Uri}
    {steps₁ steps₂ : List Step}
    (hreplies : ∀ v ≠ u, replies₁.lookup v = replies₂.lookup v)
    (hstalled : ∀ v ≠ u, v ∈ stalled₁ ↔ v ∈ stalled₂)
    (hsteps : steps₁.filter (fun i => !i.names u) = steps₂.filter fun i => !i.names u) :
    let x₁ : Session := ⟨{ fallback, replies := replies₁, stalled := stalled₁ }, { catalog }⟩
    let x₂ : Session := ⟨{ fallback, replies := replies₂, stalled := stalled₂ }, { catalog }⟩
    let first : Step := .call (.negotiate capabilities)
    (∀ v ≠ u,
      (x₁.glimpses v (first :: steps₁)).filter (fun g => !g.step.names u) =
        (x₂.glimpses v (first :: steps₂)).filter (fun g => !g.step.names u) ∧
      ∀ g ∈ x₁.glimpses v (first :: steps₁) ++ x₂.glimpses v (first :: steps₂),
        g.step.names u = true → g.effects = [] ∧ g.after = g.before) ∧
    ∀ (x : Session) (i : Step),
      (x.markedStep i).map Prod.snd = (x.step i).2.2 ∧ ∀ m ∈ x.markedStep i, m.Apt := by
  intro x₁ x₂ first
  refine ⟨fun v hne => ?_, fun x i => ⟨x.map_snd_markedStep i, x.apt_markedStep i⟩⟩
  have hrest₁ := glimpses_eq_facet (rests_negotiate catalog fallback replies₁ stalled₁ capabilities)
    List.nodup_nil v steps₁
  have hrest₂ := glimpses_eq_facet (rests_negotiate catalog fallback replies₂ stalled₂ capabilities)
    List.nodup_nil v steps₂
  have hfacet : (x₁.step first).1.facet v = (x₂.step first).1.facet v := by
    have hclient : x₁.client.facet v = x₂.client.facet v := by
      simp only [Client.facet, x₁, x₂, hreplies v hne, hstalled v hne]
    exact congrArg (Facet.mk · _) hclient
  have hfirst : first.names u = false := rfl
  refine ⟨?_, fun g hg hnames => ?_⟩
  · rw [glimpses, glimpses, List.filter_cons_of_pos (by simp [hfirst]),
      List.filter_cons_of_pos (by simp [hfirst]), hrest₁, hrest₂, hfacet,
      Facet.filter_glimpses hne, Facet.filter_glimpses hne, hsteps]
    rfl
  · have hlater : ∀ {y : Facet} {steps : List Step}, g ∈ y.glimpses v steps →
        g.effects = [] ∧ g.after = g.before := fun hg => Facet.quiet_of_names hne hg hnames
    rcases List.mem_append.mp hg with hg | hg
    · rcases List.mem_cons.mp hg with rfl | hg
      · exact absurd hnames (by simp [hfirst])
      · exact hlater (hrest₁ ▸ hg)
    · rcases List.mem_cons.mp hg with rfl | hg
      · exact absurd hnames (by simp [hfirst])
      · exact hlater (hrest₂ ▸ hg)

def judgedTwice (uri : Uri) : List Step :=
  [.call (.opened uri ['A', 'B'] 1), .call (.configured .null)]

/-- The lookup of one document is held back all along, once when the configuration changes. The
other one is judged at once, as it would be alone. -/
theorem documents_isolated_from_stalled_lookup :
    let slow : Uri := ⟨"file:///slow"⟩
    let note : Uri := ⟨"file:///note"⟩
    let first : Step := .call (.negotiate { workspace := some { configuration := some true } })
    let alone : Session := ⟨{}, { catalog := ⟨[]⟩ }⟩
    let beside : Session := ⟨{ replies := [(slow, .values [])], stalled := [slow] },
      { catalog := ⟨[]⟩ }⟩
    let opening : Step := .call (.opened slow ['C', 'D'] 1)
    ((beside.glimpses note (first :: opening :: judgedTwice note)).filter
        fun g => !g.step.names slow) =
      ((alone.glimpses note (first :: judgedTwice note)).filter fun g => !g.step.names slow) ∧
    (alone.glimpses note (first :: judgedTwice note)).map (fun g => g.effects.length) =
      [0, 2, 2] ∧
    (beside.run (first :: opening :: judgedTwice note)).1.server.passes.length = 2 := by
  refine ⟨?_, by decide +kernel, by decide +kernel⟩
  refine ((documents_isolated ⟨[]⟩ (.values [.null])
    { workspace := some { configuration := some true } } ⟨"file:///slow"⟩ (fun v hne => ?_)
    (fun v hne => ?_) rfl).1 ⟨"file:///note"⟩ (by decide)).1
  · have hkey : (v == ⟨"file:///slow"⟩) = false := by simpa using hne
    simp [List.lookup_cons, hkey]
  · simpa using hne

end ClassPad.Session
