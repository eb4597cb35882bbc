import Tintbook.Json.Shape
/-!
# Reading step by step

A reading is a computation on a cursor: the unread bytes, and the line and column that place
a refusal. What a reading gives back depends on the unread bytes alone, so a reading is
followed here by its bytes: `Reader.Runs r xs r' ys` says that `r`, started on any cursor
whose unread bytes are `xs`, goes on exactly as `r'` does from a cursor whose unread bytes
are `ys`. A reading that succeeds with `v` is one that goes on as `pure v`
(`Reader.Yields`).

Each primitive of the reader gets one step lemma, stated for the rest of the reading bound
after it (`peek_bind`, `eat_bind`, `next_bind`, `skipBlank_bind`); a whole reading is then
followed by chaining the steps (`Runs.trans`) and taking the branch that the byte read
selects.

The same steps serve the other direction. `Reader.Gives r xs v ys` says that some run of `r`
on the unread bytes `xs` succeeded with `v` and left `ys`; a step taken on the bytes keeps
that (`Gives.of_runs`), so what a reading that succeeded has read is found by walking it
forward, and a branch that ends in a refusal is ruled out (`Gives.fail`).

## What this module delivers

- `Reader.Runs`, `Reader.Yields`: a reading followed by its unread bytes.
- `Runs.trans`, `Runs.bind`, `Yields.bind`: chaining readings.
- The step lemmas of `peek`, `eat`, `next`, `get`, `skipBlank`, `expectWord`, `tracked`,
  `attempt`; `afterBlanks`, what is left once the blanks at the front are read.
- `Yields.run`: a reading that yields on a whole text gives its value.
- `Reader.Gives` and its rules: a reading that succeeded, followed back through its steps.
-/

set_option autoImplicit false

namespace Tintbook.Json

theorem Cursor.rest_consume {c : Cursor} {b : UInt8} {xs : List UInt8}
    (h : c.rest = b :: xs) : c.consume.rest = xs := by
  unfold Cursor.consume
  rw [h]
  dsimp only
  split <;> rfl

namespace Reader

/-- `r` started on the unread bytes `xs` goes on as `r'` started on the unread bytes `ys`.
The line and column are carried along: they place refusals and nothing else. -/
def Runs {α : Type} (r : Reader α) (xs : List UInt8) (r' : Reader α) (ys : List UInt8) :
    Prop :=
  ∀ c : Cursor, c.rest = xs → ∃ c' : Cursor, c'.rest = ys ∧ r.run.run c = r'.run.run c'

/-- `r` started on the unread bytes `xs` succeeds with `v` and leaves `ys` unread. -/
def Yields {α : Type} (r : Reader α) (xs : List UInt8) (v : α) (ys : List UInt8) : Prop :=
  Runs r xs (pure v) ys

variable {α β : Type}

/-! ## Chaining readings -/

theorem Runs.refl (r : Reader α) (xs : List UInt8) : Runs r xs r xs :=
  fun c hc => ⟨c, hc, rfl⟩

theorem Runs.trans {r r' r'' : Reader α} {xs ys zs : List UInt8} (h₁ : Runs r xs r' ys)
    (h₂ : Runs r' ys r'' zs) : Runs r xs r'' zs := by
  intro c hc
  obtain ⟨c₁, hc₁, h₁⟩ := h₁ c hc
  obtain ⟨c₂, hc₂, h₂⟩ := h₂ c₁ hc₁
  exact ⟨c₂, hc₂, h₁.trans h₂⟩

theorem Runs.bind {r r' : Reader α} {xs ys : List UInt8} (h : Runs r xs r' ys)
    (f : α → Reader β) : Runs (r >>= f) xs (r' >>= f) ys := by
  intro c hc
  obtain ⟨c', hc', h⟩ := h c hc
  refine ⟨c', hc', ?_⟩
  simp only [ExceptT.run_bind, StateT.run_bind, h]

/-- A reading that yields hands its value on to the rest. -/
theorem Yields.bind {r : Reader α} {xs ys : List UInt8} {a : α} (h : Yields r xs a ys)
    (f : α → Reader β) : Runs (r >>= f) xs (f a) ys := by
  have hbind := Runs.bind h f
  rwa [pure_bind] at hbind

theorem Yields.pure (a : α) (xs : List UInt8) : Yields (pure a) xs a xs :=
  Runs.refl _ xs

/-- A reading that yields on a whole text, started at its first byte, gives its value. -/
theorem Yields.run {r : Reader α} {bytes : List UInt8} {v : α} (h : Yields r bytes v []) :
    (r.run.run (Cursor.start bytes)).1 = .ok v := by
  obtain ⟨c', -, hrun⟩ := h (Cursor.start bytes) rfl
  rw [hrun]
  rfl

/-! ## The primitives -/

theorem peek_bind (k : Option UInt8 → Reader β) (xs : List UInt8) :
    Runs (peek >>= k) xs (k xs.head?) xs := by
  intro c hc
  subst hc
  exact ⟨c, rfl, rfl⟩

theorem eat_bind (k : Unit → Reader β) (b : UInt8) (xs : List UInt8) :
    Runs (eat >>= k) (b :: xs) (k ()) xs :=
  fun c hc => ⟨c.consume, Cursor.rest_consume hc, rfl⟩

theorem eat_yields (b : UInt8) (xs : List UInt8) : Yields eat (b :: xs) () xs :=
  fun c hc => ⟨c.consume, Cursor.rest_consume hc, rfl⟩

/-- At the end of the text, reading a byte reads nothing. -/
theorem eat_bind_nil (k : Unit → Reader β) : Runs (eat >>= k) [] (k ()) [] := by
  intro c hc
  refine ⟨c.consume, ?_, rfl⟩
  unfold Cursor.consume
  rw [hc]
  exact hc

theorem next_bind_nil (k : Option UInt8 → Reader β) : Runs (next >>= k) [] (k none) [] := by
  intro c hc
  obtain ⟨rest, line, column⟩ := c
  dsimp only at hc
  subst hc
  exact ⟨⟨[], line, column⟩, rfl, rfl⟩

theorem next_bind (k : Option UInt8 → Reader β) (b : UInt8) (xs : List UInt8) :
    Runs (next >>= k) (b :: xs) (k (some b)) xs := by
  intro c hc
  obtain ⟨rest, line, column⟩ := c
  dsimp only at hc
  subst hc
  exact ⟨_, Cursor.rest_consume rfl, rfl⟩

/-- A reading that looks at the cursor only through its unread bytes. -/
theorem get_bind {k : Cursor → Reader β} {xs : List UInt8} {r : Reader β}
    (hk : ∀ c : Cursor, c.rest = xs → k c = r) : Runs (get >>= k) xs r xs :=
  fun c hc => ⟨c, hc, by rw [← hk c hc]; rfl⟩

theorem modify_bind (f : Cursor → Cursor) (k : Unit → Reader β) {xs ys : List UInt8}
    (hf : ∀ c : Cursor, c.rest = xs → (f c).rest = ys) : Runs (modify f >>= k) xs (k ()) ys :=
  fun c hc => ⟨f c, hf c hc, rfl⟩

theorem skipBlanks_rest {c : Cursor} {b : UInt8} {xs : List UInt8} (h : c.rest = b :: xs)
    (hb : isBlankByte b = false) : (skipBlanks c).rest = b :: xs := by
  unfold skipBlanks
  rw [h, skipBlanksFrom, if_neg (by simp [hb])]

/-- Where no blank stands, `skipBlank` reads nothing and returns the next byte. -/
theorem skipBlank_bind (k : Option UInt8 → Reader β) {b : UInt8} (xs : List UInt8)
    (hb : isBlankByte b = false) : Runs (skipBlank >>= k) (b :: xs) (k (some b)) (b :: xs) := by
  rw [skipBlank, bind_assoc]
  exact (modify_bind _ _ fun _ hc => skipBlanks_rest hc hb).trans (peek_bind k _)

/-- The bytes left once the blanks at the front are read. -/
def afterBlanks (xs : List UInt8) : List UInt8 := xs.dropWhile isBlankByte

theorem skipBlanksFrom_rest (xs : List UInt8) (line column : Nat) :
    (skipBlanksFrom xs line column).rest = afterBlanks xs := by
  induction xs generalizing line column with
  | nil => rfl
  | cons b xs ih =>
    rw [skipBlanksFrom, afterBlanks, List.dropWhile_cons]
    by_cases hb : isBlankByte b = true
    · simp only [hb, if_true]
      split <;> exact ih _ _
    · simp only [hb, if_false, Bool.false_eq_true]

/-- `skipBlank` reads every blank at the front and returns the byte after them, unread. -/
theorem skipBlank_bind_after (k : Option UInt8 → Reader β) (xs : List UInt8) :
    Runs (skipBlank >>= k) xs (k (afterBlanks xs).head?) (afterBlanks xs) := by
  rw [skipBlank, bind_assoc]
  refine (modify_bind _ _ fun c hc => ?_).trans (peek_bind k _)
  rw [skipBlanks, hc, skipBlanksFrom_rest]

theorem afterBlanks_head {xs ys : List UInt8} {b : UInt8} (h : afterBlanks xs = b :: ys) :
    isBlankByte b = false := by
  have hne : afterBlanks xs ≠ [] := by
    rw [h]
    exact List.cons_ne_nil b ys
  have hhead : (afterBlanks xs).head hne = b := by simp only [h, List.head_cons]
  rw [← hhead]
  exact List.head_dropWhile_not isBlankByte hne

theorem afterBlanks_cons {b : UInt8} (hb : isBlankByte b = false) (xs : List UInt8) :
    afterBlanks (b :: xs) = b :: xs := by
  simp [afterBlanks, hb]

@[simp] theorem afterBlanks_afterBlanks (xs : List UInt8) :
    afterBlanks (afterBlanks xs) = afterBlanks xs := by
  cases h : afterBlanks xs with
  | nil => rfl
  | cons b ys => exact afterBlanks_cons (afterBlanks_head h) ys

theorem length_afterBlanks_le (xs : List UInt8) : (afterBlanks xs).length ≤ xs.length :=
  (List.dropWhile_suffix _).length_le

/-- At the end of the text, `skipBlank` returns nothing. -/
theorem skipBlank_bind_nil (k : Option UInt8 → Reader β) :
    Runs (skipBlank >>= k) [] (k none) [] := by
  rw [skipBlank, bind_assoc]
  refine (modify_bind _ _ fun c hc => ?_).trans (peek_bind k _)
  unfold skipBlanks
  rw [hc, skipBlanksFrom]

theorem expectWord_yields (ws xs : List UInt8) : Yields (expectWord ws) (ws ++ xs) () xs := by
  induction ws with
  | nil => exact Yields.pure () xs
  | cons w ws ih =>
    rw [expectWord]
    refine (next_bind _ w _).trans ?_
    simp only [beq_self_eq_true, if_true]
    exact ih

/-! ## Paths and attempts -/

/-- The path of a reading that succeeds changes nothing. -/
theorem tracked_yields {r : Reader α} {xs ys : List UInt8} {v : α} (path : List Step)
    (h : Yields r xs v ys) : Yields (tracked path r) xs v ys := by
  intro c hc
  obtain ⟨c', hc', hrun⟩ := h c hc
  refine ⟨c', hc', ?_⟩
  simp only [tracked, tryCatch, tryCatchThe, MonadExceptOf.tryCatch, ExceptT.tryCatch,
    ExceptT.run_mk, StateT.run_bind]
  erw [hrun]
  rfl

theorem attempt_yields {r : Reader α} {xs ys : List UInt8} {v : α} (h : Yields r xs v ys) :
    Yields (attempt r) xs (.ok v) ys := by
  intro c hc
  obtain ⟨c', hc', hrun⟩ := h c hc
  refine ⟨c', hc', ?_⟩
  simp only [attempt, ExceptT.run_lift, StateT.run_map, hrun]
  rfl

/-! ## Readings that succeeded -/

/-- Some run of `r` on the unread bytes `xs` succeeded with `v` and left `ys` unread. -/
def Gives (r : Reader α) (xs : List UInt8) (v : α) (ys : List UInt8) : Prop :=
  ∃ c c' : Cursor, c.rest = xs ∧ c'.rest = ys ∧ r.run.run c = (.ok v, c')

/-- A reading that goes on as another keeps what it gives. -/
theorem Gives.of_runs {r r' : Reader α} {xs xs' ys : List UInt8} {v : α} (h : Runs r xs r' xs')
    (hg : Gives r xs v ys) : Gives r' xs' v ys := by
  obtain ⟨c, c', hc, hc', hrun⟩ := hg
  obtain ⟨c₁, hc₁, hstep⟩ := h c hc
  exact ⟨c₁, c', hc₁, hc', hstep ▸ hrun⟩

theorem Yields.gives {r : Reader α} {xs ys : List UInt8} {v : α} (h : Yields r xs v ys) :
    Gives r xs v ys := by
  obtain ⟨c', hc', hrun⟩ := h ⟨xs, 1, 0⟩ rfl
  exact ⟨⟨xs, 1, 0⟩, c', rfl, hc', hrun⟩

/-- A sequence that succeeded succeeded in its first step, and then in the rest. -/
theorem Gives.bind {r : Reader α} {f : α → Reader β} {xs zs : List UInt8} {b : β}
    (h : Gives (r >>= f) xs b zs) : ∃ a ys, Gives r xs a ys ∧ Gives (f a) ys b zs := by
  obtain ⟨c, c'', hc, hc'', hrun⟩ := h
  simp only [ExceptT.run_bind, StateT.run_bind] at hrun
  generalize hr : r.run.run c = p at hrun
  obtain ⟨e | a, c'⟩ := p
  · cases hrun
  · exact ⟨a, c'.rest, ⟨c, c', hc, rfl, hr⟩, ⟨c', c'', rfl, hc'', hrun⟩⟩

theorem Gives.pure {a v : α} {xs ys : List UInt8} (h : Gives (Pure.pure a : Reader α) xs v ys) :
    v = a ∧ ys = xs := by
  obtain ⟨c, c', hc, hc', hrun⟩ := h
  cases hrun
  exact ⟨rfl, hc'.symm.trans hc⟩

/-- Where a reading yields, it gives nothing else. -/
theorem Gives.of_yields {r : Reader α} {xs ys zs : List UInt8} {a v : α} (hy : Yields r xs a ys)
    (h : Gives r xs v zs) : v = a ∧ zs = ys :=
  Gives.pure (Gives.of_runs hy h)

theorem Gives.of_eat {b : UInt8} {xs ys : List UInt8} {u : Unit} (h : Gives eat (b :: xs) u ys) :
    ys = xs :=
  (Gives.of_yields (eat_yields b xs) h).2

theorem Gives.throw {e : Refusal} {xs ys : List UInt8} {v : α}
    (h : Gives (MonadExcept.throw e : Reader α) xs v ys) : False := by
  obtain ⟨c, c', -, -, hrun⟩ := h
  cases hrun

/-- A reading that looks at the cursor and then refuses never succeeds. -/
theorem Gives.get_throw {f : Cursor → Refusal} {xs ys : List UInt8} {v : α}
    (h : Gives (do let c ← get; MonadExcept.throw (f c) : Reader α) xs v ys) : False := by
  obtain ⟨c, c', -, -, hrun⟩ := h
  cases hrun

theorem Gives.fail {f : FormFault} {xs ys : List UInt8} {v : α}
    (h : Gives (Reader.fail f : Reader α) xs v ys) : False := by
  obtain ⟨c, c', -, -, hrun⟩ := h
  cases hrun

theorem Gives.failAhead {f : FormFault} {xs ys : List UInt8} {v : α}
    (h : Gives (Reader.failAhead f : Reader α) xs v ys) : False := by
  obtain ⟨⟨rest, line, column⟩, c', -, -, hrun⟩ := h
  unfold Reader.failAhead ahead at hrun
  cases rest <;> cases hrun

theorem Gives.failDataHere {f : DataFault} {xs ys : List UInt8} {v : α}
    (h : Gives (Reader.failDataHere f : Reader α) xs v ys) : False := by
  obtain ⟨c, c', -, -, hrun⟩ := h
  cases hrun

theorem Gives.failData {f : DataFault} {xs ys : List UInt8} {v : α}
    (h : Gives (Reader.failData f : Reader α) xs v ys) : False := by
  obtain ⟨c, c', -, -, hrun⟩ := h
  cases hrun

/-- Giving a path to a reading changes its refusal and nothing else. -/
theorem tracked_run (path : List Step) (r : Reader α) (c : Cursor) :
    (tracked path r).run.run c = match r.run.run c with
      | (.ok a, c₁) => (.ok a, c₁)
      | (.error e, c₁) => (.error (match e.path with
          | some _ => e
          | none => { e with path := some path }), c₁) := by
  simp only [tracked, tryCatch, tryCatchThe, MonadExceptOf.tryCatch, ExceptT.tryCatch,
    ExceptT.run_mk, StateT.run_bind]
  generalize hp : r.run.run c = p
  have hp' : StateT.run r c = p := hp
  rw [hp']
  obtain ⟨e | a, c₁⟩ := p <;> rfl

/-- An attempt hands back the outcome of the reading as a value. -/
theorem attempt_run (r : Reader α) (c : Cursor) :
    (attempt r).run.run c = (.ok (r.run.run c).1, (r.run.run c).2) := by
  simp only [attempt, ExceptT.run_lift, StateT.run_map]
  rfl

/-- The path of a reading changes nothing of what it gives. -/
theorem Gives.tracked {path : List Step} {r : Reader α} {xs ys : List UInt8} {v : α}
    (h : Gives (Reader.tracked path r) xs v ys) : Gives r xs v ys := by
  obtain ⟨c, c', hc, hc', hrun⟩ := h
  refine ⟨c, c', hc, hc', ?_⟩
  rw [tracked_run] at hrun
  generalize r.run.run c = p at hrun
  obtain ⟨e | a, c₁⟩ := p
  · cases hrun
  · exact hrun

/-- An attempt that handed back a value is the reading succeeding with it. -/
theorem Gives.attempt_ok {r : Reader α} {xs ys : List UInt8} {a : α}
    (h : Gives (Reader.attempt r) xs (.ok a) ys) : Gives r xs a ys := by
  obtain ⟨c, c', hc, hc', hrun⟩ := h
  rw [attempt_run] at hrun
  generalize hr : r.run.run c = p at hrun
  obtain ⟨e | b, c₁⟩ := p
  · cases hrun
  · cases hrun
    exact ⟨c, _, hc, hc', hr⟩

/-- An outcome handed on succeeds only when it is a value, and reads nothing. -/
theorem Gives.placed {r : Except Refusal α} {xs ys : List UInt8} {v : α}
    (h : Gives (Reader.placed r) xs v ys) : r = .ok v ∧ ys = xs := by
  cases r with
  | ok a => exact (Gives.pure h).1 ▸ ⟨rfl, (Gives.pure h).2⟩
  | error e =>
    exfalso
    obtain ⟨c, c', -, -, hrun⟩ := h
    simp only [Reader.placed] at hrun
    split at hrun <;> cases hrun

theorem firstOf_eq_ok {r : Except Refusal α} {e : Except Refusal Unit} {a : α}
    (h : firstOf r e = .ok a) : r = .ok a ∧ e = .ok () := by
  unfold firstOf at h
  split at h <;> cases h
  exact ⟨rfl, rfl⟩

/-! ### The primitives, followed back -/

theorem Gives.peek_bind {k : Option UInt8 → Reader β} {xs ys : List UInt8} {v : β}
    (h : Gives (peek >>= k) xs v ys) : Gives (k xs.head?) xs v ys :=
  Gives.of_runs (Reader.peek_bind k xs) h

theorem Gives.eat_bind {k : Unit → Reader β} {b : UInt8} {xs ys : List UInt8} {v : β}
    (h : Gives (eat >>= k) (b :: xs) v ys) : Gives (k ()) xs v ys :=
  Gives.of_runs (Reader.eat_bind k b xs) h

theorem Gives.next_bind {k : Option UInt8 → Reader β} {b : UInt8} {xs ys : List UInt8} {v : β}
    (h : Gives (next >>= k) (b :: xs) v ys) : Gives (k (some b)) xs v ys :=
  Gives.of_runs (Reader.next_bind k b xs) h

theorem Gives.skipBlank_bind {k : Option UInt8 → Reader β} {xs ys : List UInt8} {v : β}
    (h : Gives (skipBlank >>= k) xs v ys) :
    Gives (k (afterBlanks xs).head?) (afterBlanks xs) v ys :=
  Gives.of_runs (skipBlank_bind_after k xs) h

/-! ### Readings that always refuse -/

/-- A reading that refuses whatever cursor it is started on. -/
def Refuses (r : Reader α) : Prop :=
  ∀ c : Cursor, ∃ e c', r.run.run c = (.error e, c')

theorem Refuses.not_gives {r : Reader α} (h : Refuses r) {xs ys : List UInt8} {v : α} :
    ¬ Gives r xs v ys := by
  rintro ⟨c, c', -, -, hrun⟩
  obtain ⟨e, c'', hc⟩ := h c
  rw [hc] at hrun
  cases hrun

/-- A reading that goes on with a refusal, whatever it read first, refuses. -/
theorem Refuses.bind {r : Reader α} {f : α → Reader β} (h : ∀ a, Refuses (f a)) :
    Refuses (r >>= f) := by
  intro c
  simp only [ExceptT.run_bind, StateT.run_bind]
  generalize r.run.run c = p
  obtain ⟨e | a, c₁⟩ := p
  · exact ⟨e, c₁, rfl⟩
  · exact h a c₁

/-- A reading that refuses first refuses whatever would come after it. -/
theorem Refuses.bind_of_left {r : Reader α} {f : α → Reader β} (h : Refuses r) :
    Refuses (r >>= f) := by
  intro c
  simp only [ExceptT.run_bind, StateT.run_bind]
  obtain ⟨e, c₁, hc⟩ := h c
  refine ⟨e, c₁, ?_⟩
  rw [hc]
  rfl

theorem Refuses.throw (e : Refusal) : Refuses (MonadExcept.throw e : Reader α) :=
  fun c => ⟨e, c, rfl⟩

theorem Refuses.fail (f : FormFault) : Refuses (Reader.fail f : Reader α) :=
  fun c => ⟨_, c, rfl⟩

theorem Refuses.failAhead (f : FormFault) : Refuses (Reader.failAhead f : Reader α) := by
  intro c
  obtain ⟨rest, line, column⟩ := c
  unfold Reader.failAhead ahead
  cases rest <;> exact ⟨_, _, rfl⟩

theorem Refuses.failDataHere (f : DataFault) : Refuses (Reader.failDataHere f : Reader α) :=
  fun c => ⟨_, c, rfl⟩

theorem Refuses.failData (f : DataFault) : Refuses (Reader.failData f : Reader α) :=
  fun c => ⟨_, c, rfl⟩

/-- A reading that succeeded on a whole text, started at its first byte. -/
theorem Gives.of_run {r : Reader α} {bytes : List UInt8} {v : α}
    (h : (r.run.run (Cursor.start bytes)).1 = .ok v) :
    ∃ ys, Gives r bytes v ys := by
  generalize hr : r.run.run (Cursor.start bytes) = p at h
  obtain ⟨e, c'⟩ := p
  cases h
  exact ⟨c'.rest, Cursor.start bytes, c', rfl, rfl, hr⟩

end Reader

end Tintbook.Json
