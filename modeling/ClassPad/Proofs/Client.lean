import Mathlib.Tactic.Common
import ClassPad.Client

/-!
How a scripted client attends to a peer. Each request is held back or answered at once, so what is
kept by every answer of the peer is kept by the whole, and peers that differ in how they write down
what they do are attended to alike.
-/

set_option autoImplicit false
set_option relaxedAutoImplicit false

namespace ClassPad.Client

def hold (c : Client) (request : Nat) (uri : Uri) : Client :=
  { c with held := c.held ++ [(request, uri)] }

theorem held_hold_stalled {c : Client} (h : ∀ w ∈ c.held, w.2 ∈ c.stalled) {uri : Uri}
    (hheld : uri ∈ c.stalled) (request : Nat) :
    ∀ w ∈ (c.hold request uri).held, w.2 ∈ c.stalled := by
  intro w hw
  rcases List.mem_append.mp hw with hold | hnew
  · exact h w hold
  · rwa [List.mem_singleton.mp hnew]

variable {σ ε : Type} {peer : Peer σ ε} {c : Client} {s : σ} {event : ε} {rest : List ε}

theorem attend_of_other (h : peer.asked event = none) :
    attend peer c s (event :: rest) =
      ((attend peer c s rest).1, (attend peer c s rest).2.1,
        event :: (attend peer c s rest).2.2) := by
  simp only [attend, h]

theorem attend_of_stalled {request : Nat} {uri : Uri} (h : peer.asked event = some (request, uri))
    (hheld : uri ∈ c.stalled) :
    attend peer c s (event :: rest) =
      ((attend peer (c.hold request uri) s rest).1, (attend peer (c.hold request uri) s rest).2.1,
        event :: (attend peer (c.hold request uri) s rest).2.2) := by
  simp only [attend, h, receive, if_pos hheld, hold]

theorem attend_of_answered {request : Nat} {uri : Uri} (h : peer.asked event = some (request, uri))
    (hfree : uri ∉ c.stalled) {next : σ} {done : List ε}
    (hnext : peer.answer s request (c.reply uri) = (next, done)) :
    attend peer c s (event :: rest) =
      ((attend peer c next rest).1, (attend peer c next rest).2.1,
        event :: done ++ (attend peer c next rest).2.2) := by
  simp only [attend, h, receive, if_neg hfree, hnext]

theorem deliver_cons {request : Nat} {reply : Reply} {replies : List (Nat × Reply)} :
    deliver peer s ((request, reply) :: replies) =
      ((deliver peer (peer.answer s request reply).1 replies).1,
        (peer.answer s request reply).2 ++
          (deliver peer (peer.answer s request reply).1 replies).2) := rfl

/-- What every answer keeps of a peer's state and holds of what the peer does with it, attending
keeps and holds of all that the peer does. -/
theorem attend_induction {P : σ → Prop} {Q : ε → Prop}
    (hstate : ∀ s request reply, P s → P (peer.answer s request reply).1)
    (hdone : ∀ s request reply, P s → ∀ e ∈ (peer.answer s request reply).2, Q e)
    {events : List ε} (hs : P s) (hevents : ∀ e ∈ events, Q e) :
    P (attend peer c s events).2.1 ∧ ∀ e ∈ (attend peer c s events).2.2, Q e := by
  induction events generalizing c s with
  | nil => exact ⟨hs, fun e he => absurd he List.not_mem_nil⟩
  | cons event rest ih =>
    have hfirst := hevents event List.mem_cons_self
    have hrest : ∀ e ∈ rest, Q e := fun e he => hevents e (List.mem_cons_of_mem event he)
    cases hask : peer.asked event with
    | none =>
      obtain ⟨hstate', hdone'⟩ := ih (c := c) hs hrest
      rw [attend_of_other hask]
      exact ⟨hstate', List.forall_mem_cons.mpr ⟨hfirst, hdone'⟩⟩
    | some w =>
      obtain ⟨request, uri⟩ := w
      by_cases hheld : uri ∈ c.stalled
      · obtain ⟨hstate', hdone'⟩ := ih (c := c.hold request uri) hs hrest
        rw [attend_of_stalled hask hheld]
        exact ⟨hstate', List.forall_mem_cons.mpr ⟨hfirst, hdone'⟩⟩
      · obtain ⟨hstate', hdone'⟩ := ih (c := c) (hstate s request (c.reply uri) hs) hrest
        rw [attend_of_answered hask hheld rfl]
        refine ⟨hstate', List.forall_mem_append.mpr ⟨?_, hdone'⟩⟩
        exact List.forall_mem_cons.mpr ⟨hfirst, hdone s request (c.reply uri) hs⟩

theorem deliver_induction {P : σ → Prop} {Q : ε → Prop}
    (hstate : ∀ s request reply, P s → P (peer.answer s request reply).1)
    (hdone : ∀ s request reply, P s → ∀ e ∈ (peer.answer s request reply).2, Q e)
    {replies : List (Nat × Reply)} (hs : P s) :
    P (deliver peer s replies).1 ∧ ∀ e ∈ (deliver peer s replies).2, Q e := by
  induction replies generalizing s with
  | nil => exact ⟨hs, fun e he => absurd he List.not_mem_nil⟩
  | cons w rest ih =>
    obtain ⟨request, reply⟩ := w
    obtain ⟨hstate', hdone'⟩ := ih (hstate s request reply hs)
    rw [deliver_cons]
    exact ⟨hstate', List.forall_mem_append.mpr ⟨hdone s request reply hs, hdone'⟩⟩

section Map

variable {ε' : Type} {other : Peer σ ε'} {f : ε → ε'}

/-- Peers that do the same in other words are attended to alike. -/
theorem attend_map (hasked : ∀ e, other.asked (f e) = peer.asked e)
    (hanswer : ∀ s request reply, other.answer s request reply =
      ((peer.answer s request reply).1, (peer.answer s request reply).2.map f))
    (c : Client) (s : σ) (events : List ε) :
    attend other c s (events.map f) =
      ((attend peer c s events).1, (attend peer c s events).2.1,
        (attend peer c s events).2.2.map f) := by
  induction events generalizing c s with
  | nil => rfl
  | cons event rest ih =>
    rw [List.map_cons]
    cases hask : peer.asked event with
    | none =>
      rw [attend_of_other (by rw [hasked, hask]), attend_of_other hask, ih, List.map_cons]
    | some w =>
      obtain ⟨request, uri⟩ := w
      have hask' : other.asked (f event) = some (request, uri) := by rw [hasked, hask]
      by_cases hheld : uri ∈ c.stalled
      · rw [attend_of_stalled hask' hheld, attend_of_stalled hask hheld, ih, List.map_cons]
      · rw [attend_of_answered hask' hheld (hanswer _ _ _), attend_of_answered hask hheld rfl, ih,
          List.map_append, List.map_cons]

theorem deliver_map
    (hanswer : ∀ s request reply, other.answer s request reply =
      ((peer.answer s request reply).1, (peer.answer s request reply).2.map f))
    (s : σ) (replies : List (Nat × Reply)) :
    deliver other s replies = ((deliver peer s replies).1, (deliver peer s replies).2.map f) := by
  induction replies generalizing s with
  | nil => rfl
  | cons w rest ih =>
    obtain ⟨request, reply⟩ := w
    rw [deliver_cons, deliver_cons, hanswer, ih, List.map_append]

end Map

end ClassPad.Client
