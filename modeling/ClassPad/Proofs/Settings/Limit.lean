import ClassPad.Proofs.Decode.Record
import ClassPad.Proofs.Settings.Cache

/-!
Limits that can be used. Settings come from the standard, from a change notification or from an
answer to a request; whatever the client sends, their limit is at least one and has 32 bits. So it
is with all settings that a cache holds, and no operation of the cache changes that.
-/

set_option autoImplicit false
set_option relaxedAutoImplicit false

namespace ClassPad

namespace Settings

/-- The limit lets problems be reported, and it has 32 bits. -/
def Usable (s : Settings) : Prop :=
  1 ≤ s.maxNumberOfProblems ∧ s.maxNumberOfProblems ≤ 4294967295

instance (s : Settings) : Decidable s.Usable :=
  inferInstanceAs (Decidable (1 ≤ s.maxNumberOfProblems ∧ s.maxNumberOfProblems ≤ 4294967295))

theorem usable_standard : standard.Usable := by decide

theorem decode_eq_ok {value : Json} {s : Settings} (h : decode value = .ok s) :
    Shape.given fields "maxNumberOfProblems" value = none ∧ s = standard ∨
      ∃ n : Int, Shape.given fields "maxNumberOfProblems" value = some (.int n) ∧
        0 ≤ n ∧ n ≤ 4294967295 ∧ s = ⟨n.toNat⟩ := by
  obtain ⟨normal, hread : Shape.readAs (.record _ fields) _ value = .ok normal, rfl⟩ :=
    exists_of_map_eq_ok h
  have hgiven := Shape.readGiven_given (by simp [fields]) hread (List.mem_singleton_self _)
  cases hvalue : Shape.given fields "maxNumberOfProblems" value with
  | none =>
    rw [hvalue] at hgiven
    have hnone : normal.get? "maxNumberOfProblems" = none := (Except.ok.inj hgiven).symm
    exact .inl ⟨rfl, by rw [ofNormal, hnone]⟩
  | some limit =>
    rw [hvalue] at hgiven
    obtain ⟨w, hw, hget⟩ := exists_of_map_eq_ok hgiven
    obtain ⟨n, rfl, rfl, hlow, hhigh⟩ := Shape.eq_int_of_readAs hw
    exact .inr ⟨n, rfl, hlow, hhigh, by rw [ofNormal, ← hget]⟩

private theorem usable_of_ofConfiguration {value : Json} {s : Settings}
    (h : ofConfiguration value = .ok s) : s.Usable := by
  unfold ofConfiguration at h
  split at h
  · obtain rfl := Except.ok.inj h
    exact usable_standard
  · split at h
    · exact absurd h (by simp)
    · rename_i decoded hdecode
      split_ifs at h with hzero
      obtain rfl := Except.ok.inj h
      refine ⟨Nat.one_le_iff_ne_zero.mpr hzero, ?_⟩
      rcases decode_eq_ok hdecode with ⟨-, rfl⟩ | ⟨n, -, hlow, hhigh, rfl⟩
      · exact usable_standard.2
      · simp only
        omega

theorem usable_ofChangeNotification (payload : Json) : (ofChangeNotification payload).Usable := by
  unfold ofChangeNotification
  split
  · exact usable_standard
  · split
    · rename_i hok
      exact usable_of_ofConfiguration hok
    · exact usable_standard

end Settings

theorem Reply.usable_of_outcome {reply : Reply} {s : Settings} (h : reply.outcome = .ok s) :
    s.Usable := by
  unfold outcome at h
  split at h
  · exact absurd h (by simp)
  · exact absurd h (by simp)
  · exact Settings.usable_of_ofConfiguration h

namespace SettingsCache

/-- All settings that the cache holds can be used. -/
structure Sound (c : SettingsCache) : Prop where
  shared : c.shared.Usable
  settled : ∀ (request : Nat) (s : Settings),
    c.outcomes[request]? = some (some (.ok s)) → s.Usable

variable {c : SettingsCache} {uri : Uri}

theorem sound_empty : Sound {} where
  shared := Settings.usable_standard
  settled := fun _ _ h => (nomatch h)

theorem Sound.setShared (h : Sound c) {s : Settings} (hs : s.Usable) : Sound (c.setShared s) :=
  ⟨hs, h.settled⟩

private theorem Sound.send (h : Sound c) : Sound (c.send uri) where
  shared := h.shared
  settled := fun request s ho => by
    have hkept : c.outcomes[request]? = some (some (.ok s)) := by
      simp only [SettingsCache.send, List.getElem?_append] at ho
      split_ifs at ho
      · exact ho
      · cases hn : request - c.outcomes.length <;> simp [hn] at ho
    exact h.settled request s hkept

theorem Sound.get (h : Sound c) : Sound (c.get uri).1 := by
  by_cases hknown : c.Known uri
  · rwa [get_of_known hknown]
  · rw [get_of_not_known hknown]
    exact h.send

theorem Sound.answer (h : Sound c) (request : Nat) (reply : Reply) :
    Sound (c.answer request reply) where
  shared := by
    rw [shared_answer]
    exact h.shared
  settled := fun r s ho => by
    rw [outcomes_answer] at ho
    split_ifs at ho
    · exact Reply.usable_of_outcome (Option.some.inj (Option.some.inj ho))
    · exact h.settled r s ho

end SettingsCache

end ClassPad
