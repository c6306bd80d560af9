import NetworkRollout.Server.Cluster

/-!
# Failed requests, and two runs side by side

A step of a run is put beside the same step of another run. Three things are kept of the two: the
first run only makes more requests; if one of them fails that the pass needs, the step fails, and
says that it may be tried again; and as long as the first run is denied one particular request, the
other one does not differ.

* `Request.Tolerated`, `Faults.Hit`, `Faults.Denies`: requests that may fail, and their failures.
* `Shadowing`, `Shadowed`: two runs, and a step of them.
* `Shadowed.andThen`: two steps in a row.
-/

namespace NetworkRollout

variable {α β ε ε' S : Type}

/-! ## Failures of requests -/

/-- The config maps that a pass can do without. -/
def optionalConfigs : List String := [Names.gatewayModeConfig, Names.flowsConfig]

/-- The request that reads a config map. -/
def Request.readConfig (name : String) : Request := ⟨.get, Kind.configMap.plural, name⟩

/-- Whether a pass can do without the answer: a setting that has a default, an event, the report of
the status. -/
def Request.Tolerated (r : Request) : Prop :=
  (∃ name ∈ optionalConfigs, r = .readConfig name) ∨ r.verb = .create ∨ r.verb = .patchStatus

instance (r : Request) : Decidable r.Tolerated :=
  inferInstanceAs (Decidable ((∃ name ∈ optionalConfigs, r = .readConfig name) ∨
    r.verb = .create ∨ r.verb = .patchStatus))

namespace Faults

variable {faults : Faults} {before between after : List Request} {r : Request}

/-- The faults that meet all requests of a sort. -/
def failing (p : Request → Bool) : Faults := fun _ r => if p r then some ⟨500, "down"⟩ else none

/-- Between two logs, a request failed that a pass cannot do without, and not because something
does not exist. -/
def Hit (faults : Faults) (before after : List Request) : Prop :=
  ∃ i r e, before.length ≤ i ∧ after[i]? = some r ∧ faults i r = some e ∧
    e.code ≠ ApiError.notFoundCode ∧ ¬ r.Tolerated

/-- Between two logs, the request failed whenever it was made. -/
def Denies (faults : Faults) (r : Request) (before after : List Request) : Prop :=
  ∀ i, before.length ≤ i → after[i]? = some r → (faults i r).isSome

theorem not_hit_self (faults : Faults) (log : List Request) : ¬ faults.Hit log log := by
  rintro ⟨i, r, e, hi, hr, -⟩
  rw [List.getElem?_eq_none hi] at hr
  cases hr

theorem Hit.split (h : faults.Hit before after) (hafter : between <+: after) :
    faults.Hit before between ∨ faults.Hit between after := by
  obtain ⟨i, r, e, hi, hr, hfault⟩ := h
  obtain ⟨rest, rfl⟩ := hafter
  by_cases hfirst : i < between.length
  · rw [List.getElem?_append_left hfirst] at hr
    exact Or.inl ⟨i, r, e, hi, hr, hfault⟩
  · exact Or.inr ⟨i, r, e, Nat.le_of_not_lt hfirst, hr, hfault⟩

theorem hit_append_singleton : faults.Hit before (before ++ [r]) ↔
    ∃ e, faults before.length r = some e ∧ e.code ≠ ApiError.notFoundCode ∧ ¬ r.Tolerated := by
  constructor
  · rintro ⟨i, r', e, hi, hr, hfault⟩
    obtain ⟨hlast, -⟩ := List.getElem?_eq_some_iff.mp hr
    rw [List.length_append, List.length_singleton] at hlast
    obtain rfl : i = before.length := by omega
    rw [List.getElem?_concat_length] at hr
    cases hr
    exact ⟨e, hfault⟩
  · rintro ⟨e, hfault⟩
    exact ⟨before.length, r, e, Nat.le_refl _, by simp, hfault⟩

theorem Denies.left (h : faults.Denies r before after) (hafter : between <+: after) :
    faults.Denies r before between := by
  obtain ⟨rest, rfl⟩ := hafter
  intro i hi hr
  refine h i hi ?_
  rw [List.getElem?_append_left (List.getElem?_eq_some_iff.mp hr).1, hr]

theorem Denies.right (h : faults.Denies r before after) (hbefore : before <+: between) :
    faults.Denies r between after := by
  intro i hi hr
  exact h i (Nat.le_trans hbefore.length_le hi) hr

/-- Another request is not the one that is denied. -/
theorem denies_append_singleton {other : Request} (h : other ≠ r) :
    faults.Denies r before (before ++ [other]) := by
  intro i hi hr
  obtain ⟨hlast, -⟩ := List.getElem?_eq_some_iff.mp hr
  rw [List.length_append, List.length_singleton] at hlast
  obtain rfl : i = before.length := by omega
  rw [List.getElem?_concat_length] at hr
  exact absurd (Option.some.inj hr) h

end Faults

/-- Whether a failure does not just say that something does not exist. -/
def ApiError.Tells (e : ApiError) : Prop := e.code ≠ ApiError.notFoundCode

/-- Whether a failure says that the pass may be tried again soon. -/
def Failure.Tells (e : Failure) : Prop := e.isTransient = true

/-! ## Two runs side by side -/

/-- What two runs have to do with each other: the faults of the first one, the request that the
other one makes for nothing, the log of requests in a state, and how their states are related. Each
state has a counterpart. -/
structure Shadowing (S : Type) where
  faults : Faults
  lost : Request
  log : S → List Request
  Rel : S → S → Prop
  exists_rel : ∀ s, ∃ t, Rel s t

/-- What a step of the first run, from the state `s`, makes of its faults, and what the other run
does in its place. `Tells` says of a failure that the pass may be tried again soon. -/
structure Shadowed (V : Shadowing S) (Tells : ε → Prop) (s : S) (p p' : Except ε α × S) :
    Prop where
  grows : V.log s <+: V.log p.2
  told : V.faults.Hit (V.log s) (V.log p.2) → ∃ e, p.1 = .error e ∧ Tells e
  same : V.faults.Denies V.lost (V.log s) (V.log p.2) → p'.1 = p.1 ∧ V.Rel p.2 p'.2

/-- Goes on from the answer of a step, if it has one. -/
def andThen (p : Except ε α × S) (f : α → S → Except ε β × S) : Except ε β × S :=
  match p with
  | (.ok a, s) => f a s
  | (.error e, s) => (.error e, s)

namespace Shadowed

variable {V : Shadowing S} {Tells : ε → Prop} {Tells' : ε' → Prop} {s t : S}

/-- A step that makes no request. -/
theorem done (h : V.Rel s t) (x : Except ε α) : Shadowed V Tells s (x, s) (x, t) where
  grows := List.prefix_rfl
  told hhit := absurd hhit (Faults.not_hit_self V.faults (V.log s))
  same _ := ⟨rfl, h⟩

/-- What is made of an answer. -/
theorem map {p p' : Except ε α × S} (h : Shadowed V Tells s p p')
    (g : Except ε α → Except ε' β)
    (hg : ∀ e, Tells e → ∃ e', g (.error e) = .error e' ∧ Tells' e') :
    Shadowed V Tells' s (g p.1, p.2) (g p'.1, p'.2) where
  grows := h.grows
  told hhit := by
    obtain ⟨e, herror, htells⟩ := h.told hhit
    rw [herror]
    exact hg e htells
  same hdenies := by
    obtain ⟨hanswer, hrel⟩ := h.same hdenies
    exact ⟨congrArg g hanswer, hrel⟩

/-- What is made of the failure of a step. -/
theorem mapError {p p' : Except ε α × S} (h : Shadowed V Tells s p p') (cause : ε → ε')
    (hcause : ∀ e, Tells e → Tells' (cause e)) :
    Shadowed V Tells' s (p.1.mapError cause, p.2) (p'.1.mapError cause, p'.2) :=
  h.map (Except.mapError cause) fun e he => ⟨cause e, rfl, hcause e he⟩

/-- Two steps in a row. A failure of a request is one in the first step, and then the second one is
not taken, or one in the second. -/
theorem andThen {p p' : Except ε α × S} {f f' : α → S → Except ε β × S}
    (h : Shadowed V Tells s p p')
    (hf : ∀ a t t', V.Rel t t' → Shadowed V Tells t (f a t) (f' a t')) :
    Shadowed V Tells s (NetworkRollout.andThen p f) (NetworkRollout.andThen p' f') := by
  obtain ⟨answer, t⟩ := p
  obtain ⟨answer', t'⟩ := p'
  cases answer with
  | error e =>
    refine ⟨h.grows, ?_, ?_⟩
    · intro hhit
      obtain ⟨e', he, htells⟩ := h.told hhit
      cases he
      exact ⟨e, rfl, htells⟩
    · intro hdenies
      obtain ⟨hanswer, hrel⟩ := h.same hdenies
      cases hanswer
      exact ⟨rfl, hrel⟩
  | ok a =>
    obtain ⟨partner, hpartner⟩ := V.exists_rel t
    have hnext := hf a t partner hpartner
    refine ⟨h.grows.trans hnext.grows, ?_, ?_⟩
    · intro hhit
      rcases hhit.split hnext.grows with hfirst | hsecond
      · obtain ⟨e, he, -⟩ := h.told hfirst
        cases he
      · exact hnext.told hsecond
    · intro hdenies
      obtain ⟨hanswer, hrel⟩ := h.same (hdenies.left hnext.grows)
      cases hanswer
      exact (hf a t t' hrel).same (hdenies.right h.grows)

end Shadowed

end NetworkRollout
