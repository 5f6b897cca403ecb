import ClassPad.Proofs.Server.Passes

/-!
The settings cache and the open documents of a server. Whatever comes in and in whatever order
requests are answered, only open documents have entries, and there are none while the settings are
shared. A server whose settings are asked for from the start has an entry for every open document.
-/

set_option autoImplicit false
set_option relaxedAutoImplicit false

namespace ClassPad

namespace SettingsCache

def cachedUris (c : SettingsCache) : List Uri := c.entries.map Prod.fst

private theorem size_eq_length (c : SettingsCache) : c.size = c.cachedUris.length := by
  rw [size, cachedUris, List.length_map]

private theorem lookup_eq_none_iff {c : SettingsCache} {uri : Uri} :
    c.entries.lookup uri = none ↔ uri ∉ c.cachedUris := by
  rw [List.lookup_eq_none_iff, cachedUris, List.mem_map]
  constructor
  · rintro h ⟨e, he, rfl⟩
    have := h e he
    simp at this
  · intro h e he
    have hne : uri ≠ e.1 := fun heq => h ⟨e, he, heq.symm⟩
    simpa using hne

private theorem cachedUris_forget (c : SettingsCache) (uri : Uri) :
    (c.forget uri).cachedUris = c.cachedUris.filter fun other => other ≠ uri := by
  rw [cachedUris, cachedUris, forget, List.filter_map]
  rfl

end SettingsCache

namespace Server

open SettingsCache (lookup_eq_none_iff cachedUris_forget)

/-- Entries belong to open documents, one to each, and there are none while the settings are
shared. -/
structure Lockstep (s : Server) : Prop where
  once : s.cache.cachedUris.Nodup
  isOpen : ∀ uri ∈ s.cache.cachedUris, uri ∈ s.openUris
  empty : s.cache.scope = .global → s.cache.cachedUris = []

/-- The settings are asked for, and the open documents have entries but for those that are due. -/
structure Covered (s : Server) (due : List Uri) : Prop where
  fixed : s.cache.fixed = some .perResource
  cached : ∀ uri ∈ s.openUris, uri ∉ due → uri ∈ s.cache.cachedUris

/-! Preparation -/

section Prepare

variable {s : Server}

private theorem cachedUris_prepare_sublist (s : Server) (c : Call) :
    (s.prepare c).cache.cachedUris.Sublist s.cache.cachedUris := by
  cases c with
  | changed uri edits version =>
    simp only [prepare]
    cases s.find? uri <;> exact List.Sublist.refl _
  | closed uri =>
    simp only [prepare, cachedUris_forget]
    exact List.filter_sublist
  | configured payload =>
    simp only [prepare]
    cases s.cache.scope with
    | perResource => exact List.nil_sublist _
    | global => exact List.Sublist.refl _
  | _ => exact List.Sublist.refl _

private theorem closes_of_mem_prepare {c : Call} {uri : Uri}
    (h : uri ∈ (s.prepare c).cache.cachedUris) : c.closes uri = false := by
  cases c with
  | closed other =>
    simp only [prepare, cachedUris_forget, List.mem_filter, decide_eq_true_eq] at h
    simpa [Call.closes, eq_comm] using h.2
  | _ => rfl

private theorem mem_cachedUris_prepare {c : Call} {uri : Uri} (h : uri ∈ s.cache.cachedUris)
    (hcloses : c.closes uri = false) (hconfigures : c.configures = false) :
    uri ∈ (s.prepare c).cache.cachedUris := by
  cases c with
  | changed other edits version =>
    simp only [prepare]
    cases s.find? other <;> exact h
  | closed other =>
    simp only [prepare, cachedUris_forget, List.mem_filter, decide_eq_true_eq]
    exact ⟨h, by simpa [Call.closes, eq_comm] using hcloses⟩
  | configured payload => simp [Call.configures] at hconfigures
  | _ => exact h

/-- Once the scope is fixed it stays; before that it is global. -/
theorem scope_of_prepare {c : Call} (h : (s.prepare c).cache.scope = .global) :
    s.cache.scope = .global := by
  cases c with
  | negotiate capabilities =>
    simp only [prepare, SettingsCache.setScope, SettingsCache.scope, Option.getD_some] at h ⊢
    cases hfixed : s.cache.fixed with
    | none => rfl
    | some scope => simpa [hfixed] using h
  | changed uri edits version =>
    simp only [prepare] at h
    cases hfind : s.find? uri <;> simpa [hfind] using h
  | configured payload =>
    cases hscope : s.cache.scope with
    | global => rfl
    | perResource =>
      simp only [prepare, hscope] at h
      exact absurd (hscope.symm.trans h) (by simp)
  | _ => exact h

private theorem fixed_prepare_of_fixed {scope : Scope} (h : s.cache.fixed = some scope) (c : Call) :
    (s.prepare c).cache.fixed = some scope := by
  cases c with
  | negotiate capabilities => simp [prepare, SettingsCache.setScope, h]
  | changed uri edits version =>
    simp only [prepare]
    cases s.find? uri <;> exact h
  | configured payload =>
    simp only [prepare]
    cases s.cache.scope <;> exact h
  | _ => exact h

private theorem Lockstep.prepare (h : Lockstep s) (c : Call) : Lockstep (s.prepare c) where
  once := h.once.sublist (cachedUris_prepare_sublist s c)
  isOpen := by
    intro uri hmem
    have hopen := h.isOpen uri ((cachedUris_prepare_sublist s c).subset hmem)
    rw [← isSome_find?_iff] at hopen ⊢
    exact (isSome_find?_prepare s c uri).mpr (.inr ⟨hopen, closes_of_mem_prepare hmem⟩)
  empty := by
    intro hscope
    have hnil := cachedUris_prepare_sublist s c
    rw [h.empty (scope_of_prepare hscope)] at hnil
    exact List.sublist_nil.mp hnil

/-- The documents without entries after a preparation are those that passes are started for. -/
theorem Covered.prepare (h : Covered s []) (c : Call) : Covered (s.prepare c) (s.starts c) where
  fixed := fixed_prepare_of_fixed h.fixed c
  cached := by
    intro uri hopen hstart
    rw [← isSome_find?_iff, isSome_find?_prepare] at hopen
    rw [mem_starts_iff, not_or, not_and] at hstart
    obtain ⟨hopens, hothers⟩ := hstart
    rcases hopen with hnew | ⟨hold, hcloses⟩
    · exact absurd hnew hopens
    · have hcached := h.cached uri (isSome_find?_iff.mp hold) List.not_mem_nil
      refine mem_cachedUris_prepare hcached hcloses ?_
      cases hconfigures : c.configures with
      | false => rfl
      | true => exact absurd hold (hothers (.inr hconfigures))

end Prepare

/-! Passes -/

section Start

variable {s : Server} {uri : Uri}

private theorem openUris_startPass (s : Server) (uri : Uri) :
    (s.startPass uri).1.openUris = s.openUris := by
  rw [openUris, documents_startPass, openUris]

private theorem cachedUris_startPass (hopen : (s.find? uri).isSome) :
    (s.startPass uri).1.cache.fixed = s.cache.fixed ∧
      (s.startPass uri).1.cache.cachedUris =
        if s.cache.scope = .global ∨ uri ∈ s.cache.cachedUris then s.cache.cachedUris
        else uri :: s.cache.cachedUris := by
  have hiff : s.cache.Known uri ↔ s.cache.scope = .global ∨ uri ∈ s.cache.cachedUris := by
    rw [SettingsCache.Known, ← Option.isSome_iff_exists, ← Option.ne_none_iff_isSome, ne_eq,
      lookup_eq_none_iff, not_not]
  by_cases hknown : s.cache.Known uri
  · rw [startPass_of_known hopen hknown, if_pos (hiff.mp hknown)]
    exact ⟨rfl, rfl⟩
  · rw [startPass_of_not_known hopen hknown, if_neg fun h => hknown (hiff.mpr h)]
    exact ⟨rfl, rfl⟩

private theorem Lockstep.startPass (h : Lockstep s) (hopen : (s.find? uri).isSome) :
    Lockstep (s.startPass uri).1 := by
  obtain ⟨hfixed, hcached⟩ := cachedUris_startPass hopen
  have hscope : (s.startPass uri).1.cache.scope = s.cache.scope := by
    rw [SettingsCache.scope, hfixed, SettingsCache.scope]
  split_ifs at hcached with hold
  · refine ⟨?_, ?_, ?_⟩
    · rw [hcached]
      exact h.once
    · rw [hcached, openUris_startPass]
      exact h.isOpen
    · rw [hcached, hscope]
      exact h.empty
  · rw [not_or] at hold
    refine ⟨?_, ?_, ?_⟩
    · rw [hcached]
      exact List.nodup_cons.mpr ⟨hold.2, h.once⟩
    · rw [hcached, openUris_startPass]
      intro other hmem
      rcases List.mem_cons.mp hmem with rfl | hmem
      · exact isSome_find?_iff.mp hopen
      · exact h.isOpen other hmem
    · rw [hscope]
      exact fun hglobal => absurd hglobal hold.1

private theorem Covered.startPass {due : List Uri} (h : Covered s (uri :: due))
    (hopen : (s.find? uri).isSome) : Covered (s.startPass uri).1 due := by
  obtain ⟨hfixed, hcached⟩ := cachedUris_startPass hopen
  have hscope : s.cache.scope ≠ .global := by
    rw [SettingsCache.scope, h.fixed]
    simp
  refine ⟨hfixed.trans h.fixed, fun other hother hdue => ?_⟩
  rw [openUris_startPass] at hother
  rw [hcached]
  have hrest : other ≠ uri → other ∈ s.cache.cachedUris := fun hne =>
    h.cached other hother (by simp [hne, hdue])
  split_ifs with hold
  · by_cases heq : other = uri
    · exact heq ▸ hold.resolve_left hscope
    · exact hrest heq
  · by_cases heq : other = uri
    · exact heq ▸ List.mem_cons_self
    · exact List.mem_cons_of_mem uri (hrest heq)

private theorem startPasses_induction {P : Server → List Uri → Prop}
    (next : ∀ s uri due, (s.find? uri).isSome → P s (uri :: due) → P (s.startPass uri).1 due)
    {s : Server} {uris : List Uri} (hopen : ∀ uri ∈ uris, (s.find? uri).isSome) (h : P s uris) :
    P (s.startPasses uris).1 [] := by
  induction uris generalizing s with
  | nil => exact h
  | cons uri rest ih =>
    rw [startPasses_cons]
    refine ih (fun other hmem => ?_) (next s uri rest (hopen uri List.mem_cons_self) h)
    rw [find?_startPass]
    exact hopen other (List.mem_cons_of_mem uri hmem)

end Start

/-! Steps and runs -/

private theorem Lockstep.react {s : Server} (h : Lockstep s) (i : Input) :
    Lockstep (s.react i).1 := by
  cases i with
  | call c =>
    have hnext : Lockstep ((s.prepare c).startPasses (s.starts c)).1 :=
      startPasses_induction (P := fun s _ => Lockstep s) (fun _ _ _ hopen h => h.startPass hopen)
        (fun _ hmem => isSome_find?_of_mem_starts hmem) (h.prepare c)
    rw [react_call]
    exact ⟨hnext.once, hnext.isOpen, hnext.empty⟩
  | answer request reply =>
    rw [Server.react, answer_eq]
    refine ⟨?_, ?_, ?_⟩
    · rw [SettingsCache.cachedUris, SettingsCache.entries_answer]
      exact h.once
    · rw [SettingsCache.cachedUris, SettingsCache.entries_answer]
      exact h.isOpen
    · rw [SettingsCache.scope, SettingsCache.fixed_answer, SettingsCache.cachedUris,
        SettingsCache.entries_answer]
      exact h.empty

private theorem Covered.react {s : Server} (h : Covered s []) (i : Input) :
    Covered (s.react i).1 [] := by
  cases i with
  | call c =>
    have hnext : Covered ((s.prepare c).startPasses (s.starts c)).1 [] :=
      startPasses_induction (fun _ _ _ hopen h => h.startPass hopen)
        (fun _ hmem => isSome_find?_of_mem_starts hmem) (h.prepare c)
    rw [react_call]
    exact ⟨hnext.fixed, hnext.cached⟩
  | answer request reply =>
    rw [Server.react, answer_eq]
    refine ⟨?_, ?_⟩
    · rw [SettingsCache.fixed_answer]
      exact h.fixed
    · rw [SettingsCache.cachedUris, SettingsCache.entries_answer]
      exact h.cached

variable {inputs : List Input} {k : Nat}

private theorem lockstep_stateAt (catalog : Catalog) (hk : k ≤ inputs.length) :
    Lockstep (stateAt catalog inputs k) := by
  refine Run.stateAt_induction (P := fun _ s => Lockstep s) react { catalog := catalog } ?_ ?_ hk
  · exact ⟨List.nodup_nil, fun uri hmem => absurd hmem List.not_mem_nil, fun _ => rfl⟩
  · exact fun j i hi h => h.react i

private theorem covered_stateAt (catalog : Catalog) {capabilities : ClientCapabilities}
    (hfirst : inputs.head? = some (.call (.negotiate capabilities)))
    (hflags : (Flags.ofClient capabilities).configuration = true) (hk : k ≤ inputs.length)
    (hpos : 0 < k) :
    Covered (stateAt catalog inputs k) [] := by
  rw [List.head?_eq_getElem?] at hfirst
  induction k with
  | zero => omega
  | succ k ih =>
    rcases Nat.eq_zero_or_pos k with rfl | hpos
    · rw [stateAt_succ catalog hfirst]
      refine ⟨?_, fun uri hmem => absurd hmem List.not_mem_nil⟩
      simp [Server.react, call, perform, SettingsCache.setScope, stateAt, Run.stateAt, hflags]
    · have hi : inputs[k]? = some inputs[k] := List.getElem?_eq_getElem hk
      rw [stateAt_succ catalog hi]
      exact (ih (Nat.le_of_succ_le hk) hpos).react _

/-- The cache and the open documents stay in step in every run: entries belong to open documents,
and there are none while the settings are shared. In a run that starts by negotiating that settings
are asked for, the documents with entries are the open ones, and as many. -/
theorem cached_in_step (catalog : Catalog) (inputs : List Input) :
    (∀ k ≤ inputs.length,
      (∀ uri ∈ (stateAt catalog inputs k).cache.cachedUris,
        uri ∈ (stateAt catalog inputs k).openUris) ∧
      ((stateAt catalog inputs k).cache.scope = .global →
        (stateAt catalog inputs k).cache.size = 0)) ∧
    ∀ capabilities, inputs.head? = some (.call (.negotiate capabilities)) →
      (Flags.ofClient capabilities).configuration = true → ∀ k ≤ inputs.length,
        (∀ uri, uri ∈ (stateAt catalog inputs k).cache.cachedUris ↔
          uri ∈ (stateAt catalog inputs k).openUris) ∧
        (stateAt catalog inputs k).cache.size = (stateAt catalog inputs k).documents.length := by
  refine ⟨fun k hk => ?_, fun capabilities hfirst hflags k hk => ?_⟩
  · have h := lockstep_stateAt catalog hk
    refine ⟨h.isOpen, fun hscope => ?_⟩
    rw [SettingsCache.size_eq_length, h.empty hscope, List.length_nil]
  · have h := lockstep_stateAt catalog hk
    have hcached : ∀ uri ∈ (stateAt catalog inputs k).openUris,
        uri ∈ (stateAt catalog inputs k).cache.cachedUris := by
      rcases Nat.eq_zero_or_pos k with rfl | hpos
      · exact fun uri hmem => absurd hmem List.not_mem_nil
      · exact fun uri hmem =>
          (covered_stateAt catalog hfirst hflags hk hpos).cached uri hmem List.not_mem_nil
    have hsame : ∀ uri, uri ∈ (stateAt catalog inputs k).cache.cachedUris ↔
        uri ∈ (stateAt catalog inputs k).openUris := fun uri => ⟨h.isOpen uri, hcached uri⟩
    have hperm := (List.perm_ext_iff_of_nodup h.once
      (nodup_openUris_stateAt catalog inputs k)).mpr hsame
    refine ⟨hsame, ?_⟩
    rw [SettingsCache.size_eq_length, hperm.length_eq, openUris, List.length_map]

/-- A document is closed while its request is open, and the configuration changes once the answer
has come. -/
theorem cached_in_step_after_late_answer :
    let inputs : List Input :=
      [.call (.negotiate { workspace := some { configuration := some true } }),
      .call (.opened ⟨"file:///a"⟩ ['A', 'B'] 1), .call (.opened ⟨"file:///b"⟩ ['C', 'D'] 1),
      .call (.closed ⟨"file:///a"⟩), .answer 0 (.values [.null]), .call (.configured .null)]
    (stateAt ⟨[]⟩ inputs 6).openUris = [⟨"file:///b"⟩] ∧
      (∀ uri, uri ∈ (stateAt ⟨[]⟩ inputs 6).cache.cachedUris ↔
        uri ∈ (stateAt ⟨[]⟩ inputs 6).openUris) ∧
      (stateAt ⟨[]⟩ inputs 6).cache.size = (stateAt ⟨[]⟩ inputs 6).documents.length := by
  intro inputs
  exact ⟨rfl, (cached_in_step ⟨[]⟩ inputs).2 _ rfl rfl 6 (Nat.le_refl 6)⟩

end Server

end ClassPad
