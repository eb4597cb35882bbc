import Tintbook.Proofs.Json.Tokens
/-!
# Values passed over

The reader passes over a value it was not asked for with a stack machine
(`Reader.skipValue`): it reads one token at a time, keeps the open containers on a stack, and
after each item reads the commas and closing brackets that follow. This module shows that the
machine passes over exactly the values of the plain JSON grammar (`LooseValue`).

The machine's state after an item is described by what the open containers still demand of
the text (`Closes`): the rest of each, innermost first. After a comma the machine hands back
the container it is in (`Resumes`): an item of that container must follow. A container just
opened demands its whole body (`Opened`). Each of the machine's loops is specified against
these relations in both directions; the induction is on the fuel, which the length of the text
bounds.

## What this module delivers

- `Closes`, `Opened`, `Resumes`, `Continues`: what the stack demands.
- `Reader.Gives.skipValue`: a value passed over is a `LooseValue`.
- `LooseValue.yields_skipValue`: a `LooseValue` is passed over whenever the fuel passes its
  length.
-/

set_option autoImplicit false

namespace Tintbook.Json

open Reader

/-! ## What the stack demands -/

/-- The rest of an open container after one of its items: more items behind commas, then its
closing bracket or brace. -/
def FrameRest (frame : UInt8) (xs ys : List UInt8) : Prop :=
  (frame = 91 ∧ LooseItemsRest xs ys) ∨ (frame = 123 ∧ LooseMembersRest xs ys)

/-- The rests of the open containers of a stack, innermost first. -/
def Closes : List UInt8 → List UInt8 → List UInt8 → Prop
  | [], xs, ys => ys = xs
  | frame :: stack, xs, ys => ∃ zs, FrameRest frame xs zs ∧ Closes stack zs ys

/-- The body of a container after its opening bracket or brace. -/
def FrameBody (frame : UInt8) (xs ys : List UInt8) : Prop :=
  (frame = 91 ∧ LooseItems xs ys) ∨ (frame = 123 ∧ LooseMembers xs ys)

/-- The body of the container `frame` just opened, then the rests of those around it. -/
def Opened (frame : UInt8) (stack xs ys : List UInt8) : Prop :=
  ∃ zs, FrameBody frame xs zs ∧ Closes stack zs ys

/-- An item of the container `frame` after a comma, a member in an object and a value in a
list, then the rest of that container and of those around it. -/
def Resumes (frame : UInt8) (stack xs ys : List UInt8) : Prop :=
  ∃ zs, (if frame = 123 then LooseMember xs zs else LooseValue xs zs) ∧
    Closes (frame :: stack) zs ys

/-- What the closing loop reads from where it starts: the rest of the container `frame`, or
its whole body when it was just opened, then the rests of those around it. -/
def CloseText (accept : Bool) (frame : UInt8) (stack xs ys : List UInt8) : Prop :=
  if accept then Closes (frame :: stack) xs ys else Opened frame stack xs ys

/-- What the machine reads after a closing loop: nothing once the outermost container has
closed, an item of the container handed back otherwise. -/
def Continues : Option (UInt8 × List UInt8) → List UInt8 → List UInt8 → Prop
  | none, vs, ys => ys = vs
  | some (frame, stack), vs, ys => Resumes frame stack vs ys

/-! ## Lengths -/

theorem FrameRest.length_le {frame : UInt8} {xs ys : List UInt8} (h : FrameRest frame xs ys) :
    ys.length ≤ xs.length := by
  rcases h with ⟨_, h⟩ | ⟨_, h⟩
  · exact h.length_le
  · exact h.length_le

theorem Closes.length_le : ∀ {stack xs ys : List UInt8}, Closes stack xs ys → ys.length ≤ xs.length
  | [], _, _, h => (congrArg List.length h).le
  | _ :: _, _, _, ⟨_, hfr, hcl⟩ => (Closes.length_le hcl).trans hfr.length_le

theorem CloseText.length_le {accept : Bool} {frame : UInt8} {stack xs ys : List UInt8}
    (h : CloseText accept frame stack xs ys) : ys.length ≤ xs.length := by
  unfold CloseText at h
  split at h
  · exact Closes.length_le h
  · obtain ⟨zs, hbody, hcl⟩ := h
    have hzs : zs.length ≤ xs.length := by
      rcases hbody with ⟨_, hb⟩ | ⟨_, hb⟩
      · exact hb.length_le
      · exact hb.length_le
    exact (Closes.length_le hcl).trans hzs

/-! ## Blanks before a value -/

theorem LooseValue.of_afterBlanks {xs ys : List UInt8} (h : LooseValue (afterBlanks xs) ys) :
    LooseValue xs ys := by
  cases h with
  | null h => exact .null (by rwa [afterBlanks_afterBlanks] at h)
  | true h => exact .true (by rwa [afterBlanks_afterBlanks] at h)
  | false h => exact .false (by rwa [afterBlanks_afterBlanks] at h)
  | number h => exact .number (by rwa [afterBlanks_afterBlanks] at h)
  | negative h hn => exact .negative (by rwa [afterBlanks_afterBlanks] at h) hn
  | string h hs => exact .string (by rwa [afterBlanks_afterBlanks] at h) hs
  | array h hs => exact .array (by rwa [afterBlanks_afterBlanks] at h) hs
  | object h hs => exact .object (by rwa [afterBlanks_afterBlanks] at h) hs

theorem LooseMember.of_afterBlanks {xs ys : List UInt8} (h : LooseMember (afterBlanks xs) ys) :
    LooseMember xs ys := by
  obtain ⟨h, hk, hc, hv⟩ := h
  exact .mk (by rwa [afterBlanks_afterBlanks] at h) hk hc hv

/-- A member begins with the quote of its name. -/
theorem LooseMember.head {xs ys : List UInt8} (h : LooseMember xs ys) :
    ∃ zs, afterBlanks xs = 34 :: zs := by
  obtain ⟨h, -, -, -⟩ := h
  exact ⟨_, h⟩

theorem LooseValue.to_afterBlanks {xs ys : List UInt8} (h : LooseValue xs ys) :
    LooseValue (afterBlanks xs) ys := by
  cases h with
  | null h => exact .null (by rwa [afterBlanks_afterBlanks])
  | true h => exact .true (by rwa [afterBlanks_afterBlanks])
  | false h => exact .false (by rwa [afterBlanks_afterBlanks])
  | number h => exact .number (by rwa [afterBlanks_afterBlanks])
  | negative h hn => exact .negative (by rwa [afterBlanks_afterBlanks]) hn
  | string h hs => exact .string (by rwa [afterBlanks_afterBlanks]) hs
  | array h hs => exact .array (by rwa [afterBlanks_afterBlanks]) hs
  | object h hs => exact .object (by rwa [afterBlanks_afterBlanks]) hs

theorem LooseMember.to_afterBlanks {xs ys : List UInt8} (h : LooseMember xs ys) :
    LooseMember (afterBlanks xs) ys := by
  obtain ⟨h, hk, hc, hv⟩ := h
  exact .mk (by rwa [afterBlanks_afterBlanks]) hk hc hv

theorem NumberText.head {xs ys : List UInt8} (h : NumberText xs ys) :
    ∃ d zs, xs = d :: zs ∧ isDigit d = true := by
  obtain ⟨zs, ws, hint, -, -⟩ := h
  rcases hint with ⟨rfl, -⟩ | ⟨-, d, zs, rfl, hd, -⟩
  · exact ⟨48, zs, rfl, by decide⟩
  · exact ⟨d, zs, rfl, hd⟩

/-- A value begins with none of the bytes that end an item: a comma, a closing bracket or a
closing brace. -/
theorem LooseValue.head {xs ys : List UInt8} (h : LooseValue xs ys) :
    ∃ b zs, afterBlanks xs = b :: zs ∧ b ≠ 44 ∧ b ≠ 93 ∧ b ≠ 125 := by
  cases h with
  | null h => exact ⟨_, _, h, by decide, by decide, by decide⟩
  | true h => exact ⟨_, _, h, by decide, by decide, by decide⟩
  | false h => exact ⟨_, _, h, by decide, by decide, by decide⟩
  | number h =>
    obtain ⟨d, zs, hd, hdigit⟩ := h.head
    refine ⟨d, zs, hd, ?_, ?_, ?_⟩ <;> rintro rfl <;> exact absurd hdigit (by decide)
  | negative h _ => exact ⟨_, _, h, by decide, by decide, by decide⟩
  | string h _ => exact ⟨_, _, h, by decide, by decide, by decide⟩
  | array h _ => exact ⟨_, _, h, by decide, by decide, by decide⟩
  | object h _ => exact ⟨_, _, h, by decide, by decide, by decide⟩

/-! ## The closing loop -/

/-- An item found where a container was just opened begins its body. -/
theorem Resumes.opened {frame : UInt8} {stack xs ys : List UInt8}
    (h : Resumes frame stack (afterBlanks xs) ys) : Opened frame stack xs ys := by
  obtain ⟨zs, hitem, ws, hrest, hcl⟩ := h
  refine ⟨ws, ?_, hcl⟩
  rcases hrest with ⟨rfl, hrest⟩ | ⟨rfl, hrest⟩
  · rw [if_neg (by decide)] at hitem
    exact .inl ⟨rfl, .items (LooseValue.of_afterBlanks hitem) hrest⟩
  · rw [if_pos rfl] at hitem
    exact .inr ⟨rfl, .members (LooseMember.of_afterBlanks hitem) hrest⟩

/-- An item behind a comma goes on the rest of the container. -/
theorem Resumes.comma {frame : UInt8} {stack xs ws ys : List UInt8}
    (hcomma : afterBlanks xs = 44 :: ws) (h : Resumes frame stack ws ys) :
    Closes (frame :: stack) xs ys := by
  obtain ⟨zs, hitem, us, hrest, hcl⟩ := h
  refine ⟨us, ?_, hcl⟩
  rcases hrest with ⟨rfl, hrest⟩ | ⟨rfl, hrest⟩
  · rw [if_neg (by decide)] at hitem
    exact .inl ⟨rfl, .more hcomma hitem hrest⟩
  · rw [if_pos rfl] at hitem
    exact .inr ⟨rfl, .more hcomma hitem hrest⟩

theorem Resumes.value {stack ws zs us ys : List UInt8} (hv : LooseValue ws zs)
    (hs : LooseItemsRest zs us) (hcl : Closes stack us ys) : Resumes 91 stack ws ys := by
  refine ⟨zs, ?_, us, .inl ⟨rfl, hs⟩, hcl⟩
  rw [if_neg (by decide)]
  exact hv

theorem Resumes.member {stack ws zs us ys : List UInt8} (hm : LooseMember ws zs)
    (hs : LooseMembersRest zs us) (hcl : Closes stack us ys) : Resumes 123 stack ws ys := by
  refine ⟨zs, ?_, us, .inr ⟨rfl, hs⟩, hcl⟩
  rw [if_pos rfl]
  exact hm

/-- A closing bracket or brace that matches the container ends it, whether it was just opened
or had items. -/
theorem CloseText.close {accept : Bool} {frame c : UInt8} {stack xs rest ys : List UInt8}
    (hclose : afterBlanks xs = c :: rest) (hc : (c = 93 ∧ frame = 91) ∨ (c = 125 ∧ frame = 123))
    (h : Closes stack rest ys) : CloseText accept frame stack xs ys := by
  unfold CloseText
  cases accept with
  | true =>
    refine ⟨rest, ?_, h⟩
    rcases hc with ⟨rfl, rfl⟩ | ⟨rfl, rfl⟩
    · exact .inl ⟨rfl, .close hclose⟩
    · exact .inr ⟨rfl, .close hclose⟩
  | false =>
    refine ⟨rest, ?_, h⟩
    rcases hc with ⟨rfl, rfl⟩ | ⟨rfl, rfl⟩
    · exact .inl ⟨rfl, .empty hclose⟩
    · exact .inr ⟨rfl, .empty hclose⟩

/-- What a closing loop that succeeded read: when it ended the outermost container, the text
it demanded; when it handed back a container, no more than the text it demanded once that
container resumes. -/
def CloseOutcome (accept : Bool) (frame : UInt8) (stack xs : List UInt8) :
    Option (UInt8 × List UInt8) → List UInt8 → Prop
  | none, ys => CloseText accept frame stack xs ys
  | some (fr, st), ws =>
    ws.length ≤ xs.length ∧ ∀ ys, Resumes fr st ws ys → CloseText accept frame stack xs ys

/-- A closing loop, and then the machine from where it stopped: the text the loop demanded. -/
theorem CloseOutcome.text {accept : Bool} {frame : UInt8} {stack xs vs ys : List UInt8}
    {o : Option (UInt8 × List UInt8)} (h : CloseOutcome accept frame stack xs o vs)
    (hnext : Continues o vs ys) : CloseText accept frame stack xs ys := by
  rcases o with _ | ⟨fr, st⟩
  · rw [Continues] at hnext
    rwa [hnext]
  · exact h.2 ys hnext

theorem CloseOutcome.length_le {accept : Bool} {frame : UInt8} {stack xs vs : List UInt8}
    {o : Option (UInt8 × List UInt8)} (h : CloseOutcome accept frame stack xs o vs) :
    vs.length ≤ xs.length := by
  rcases o with _ | ⟨fr, st⟩
  · exact CloseText.length_le h
  · exact h.1

theorem Reader.Gives.closeLoop : ∀ (f : Nat) {accept : Bool} {frame : UInt8}
    {stack xs ws : List UInt8} {o : Option (UInt8 × List UInt8)},
    Gives (skipValue.closeLoop f accept frame stack) xs o ws →
      CloseOutcome accept frame stack xs o ws
  | 0, _, _, _, _, _, _, h => (Refuses.fail _).not_gives h |>.elim
  | f + 1, accept, frame, stack, xs, ws, o, hrun => by
    unfold skipValue.closeLoop at hrun
    have h := Gives.skipBlank_bind hrun
    clear hrun
    -- a nested closing hands on to the loop of the container around it
    have hnext : ∀ {c : UInt8} {rest : List UInt8}, afterBlanks xs = c :: rest →
        (c = 93 ∧ frame = 91) ∨ (c = 125 ∧ frame = 123) →
        (stack = [] → Gives (Pure.pure none) rest o ws) →
        (∀ fr st, stack = fr :: st → Gives (skipValue.closeLoop f true fr st) rest o ws) →
        CloseOutcome accept frame stack xs o ws := by
      intro c rest hxs hc hlast hinner
      cases stack with
      | nil =>
        obtain ⟨rfl, rfl⟩ := Gives.pure (hlast rfl)
        exact CloseText.close hxs hc rfl
      | cons fr st =>
        have hout := Gives.closeLoop f (hinner fr st rfl)
        have hlen := length_lt_of_afterBlanks hxs
        rcases o with _ | ⟨fr', st'⟩
        · exact CloseText.close hxs hc hout
        · exact ⟨hout.1.trans hlen.le, fun ys hres => CloseText.close hxs hc (hout.2 ys hres)⟩
    -- a container just opened hands itself back at its first item
    have hopen : accept = false → Gives (Pure.pure (some (frame, stack))) (afterBlanks xs) o ws →
        CloseOutcome accept frame stack xs o ws := by
      intro hacc hpure
      subst hacc
      obtain ⟨rfl, rfl⟩ := Gives.pure hpure
      exact ⟨length_afterBlanks_le xs, fun ys hres => Resumes.opened hres⟩
    cases hzs : afterBlanks xs with
    | nil =>
      rw [hzs] at h
      exact (Refuses.failAhead _).not_gives h |>.elim
    | cons b rest =>
      rw [hzs] at h hopen
      simp only [List.head?_cons] at h
      split at h
      · -- a comma: after an item it is read, just after an opening it is an item's place
        rename_i heq
        cases Option.some.inj heq
        split at h
        · rename_i hacc
          subst hacc
          have h := Gives.eat_bind h
          obtain ⟨rfl, rfl⟩ := Gives.pure h
          exact ⟨(length_lt_of_afterBlanks hzs).le, fun ys hres => Resumes.comma hzs hres⟩
        · rename_i hacc
          exact hopen (by simpa using hacc) h
      · -- a closing bracket
        rename_i heq
        cases Option.some.inj heq
        split at h
        · rename_i hframe
          refine hnext hzs (.inl ⟨rfl, by simpa using hframe⟩) (fun hs => ?_) (fun fr st hs => ?_) <;>
          · subst hs
            exact Gives.eat_bind h
        split at h
        · exact (Refuses.failAhead _).not_gives h |>.elim
        · rename_i hacc
          exact hopen (by simpa using hacc) h
      · -- a closing brace
        rename_i heq
        cases Option.some.inj heq
        split at h
        · rename_i hframe
          refine hnext hzs (.inr ⟨rfl, by simpa using hframe⟩) (fun hs => ?_) (fun fr st hs => ?_) <;>
          · subst hs
            exact Gives.eat_bind h
        split at h
        · exact (Refuses.failAhead _).not_gives h |>.elim
        · rename_i hacc
          exact hopen (by simpa using hacc) h
      · -- any other byte: an item's place just after an opening
        split at h
        · exact (Refuses.failAhead _).not_gives h |>.elim
        · rename_i hacc
          exact hopen (by simpa using hacc) h
      · exact (Refuses.failAhead _).not_gives h |>.elim

/-! ## The closing loop, step by step -/

/-- A closing bracket or brace that matches the outermost container ends the value. -/
theorem closeLoop_close_last {f : Nat} {accept : Bool} {frame c : UInt8} {xs rest : List UInt8}
    (hclose : afterBlanks xs = c :: rest) (hc : (c = 93 ∧ frame = 91) ∨ (c = 125 ∧ frame = 123)) :
    Yields (skipValue.closeLoop (f + 1) accept frame []) xs none rest := by
  rw [skipValue.closeLoop.eq_def]
  refine (skipBlank_bind_after _ xs).trans ?_
  rw [hclose, List.head?_cons]
  rcases hc with ⟨rfl, rfl⟩ | ⟨rfl, rfl⟩ <;>
  · simp only [beq_self_eq_true, if_true]
    exact eat_bind _ _ _

/-- A closing bracket or brace that matches an inner container: the loop reads it and goes on
with the container around it. -/
theorem closeLoop_close_inner {f : Nat} {accept : Bool} {frame c fr : UInt8}
    {st xs rest : List UInt8} (hclose : afterBlanks xs = c :: rest)
    (hc : (c = 93 ∧ frame = 91) ∨ (c = 125 ∧ frame = 123)) :
    Runs (skipValue.closeLoop (f + 1) accept frame (fr :: st)) xs
      (skipValue.closeLoop f true fr st) rest := by
  rw [skipValue.closeLoop.eq_def]
  refine (skipBlank_bind_after _ xs).trans ?_
  rw [hclose, List.head?_cons]
  rcases hc with ⟨rfl, rfl⟩ | ⟨rfl, rfl⟩ <;>
  · simp only [beq_self_eq_true, if_true]
    exact eat_bind _ _ _

/-- A comma after an item: the loop reads it and hands the container back. -/
theorem closeLoop_comma {f : Nat} {frame : UInt8} {stack xs rest : List UInt8}
    (hcomma : afterBlanks xs = 44 :: rest) :
    Yields (skipValue.closeLoop (f + 1) true frame stack) xs (some (frame, stack)) rest := by
  rw [skipValue.closeLoop.eq_def]
  refine (skipBlank_bind_after _ xs).trans ?_
  rw [hcomma, List.head?_cons]
  simp only [if_true]
  exact eat_bind _ _ _

/-- Where a container was just opened and no closing follows, the loop reads nothing and hands
the container back at its first item. -/
theorem closeLoop_first {f : Nat} {frame b : UInt8} {stack xs rest : List UInt8}
    (hfirst : afterBlanks xs = b :: rest) (h44 : b ≠ 44) (h93 : b ≠ 93) (h125 : b ≠ 125) :
    Yields (skipValue.closeLoop (f + 1) false frame stack) xs (some (frame, stack))
      (afterBlanks xs) := by
  rw [skipValue.closeLoop.eq_def]
  refine (skipBlank_bind_after _ xs).trans ?_
  rw [hfirst, List.head?_cons]
  split <;> rename_i heq <;> simp only [Option.some.injEq, reduceCtorEq] at heq
  · exact absurd heq h44
  · exact absurd heq h93
  · exact absurd heq h125
  · rw [← hfirst]
    exact Yields.pure _ _

theorem CloseText.head {accept : Bool} {frame : UInt8} {stack xs ys : List UInt8}
    (h : CloseText accept frame stack xs ys) : ∃ b zs, afterBlanks xs = b :: zs := by
  unfold CloseText at h
  split at h
  · obtain ⟨zs, hrest, -⟩ := h
    rcases hrest with ⟨-, hrest | hrest⟩ | ⟨-, hrest | hrest⟩ <;> exact ⟨_, _, ‹_›⟩
  · obtain ⟨zs, hbody, -⟩ := h
    rcases hbody with ⟨-, hbody | ⟨hv, -⟩⟩ | ⟨-, hbody | ⟨⟨hm⟩, -⟩⟩
    · exact ⟨_, _, ‹_›⟩
    · obtain ⟨b, zs, hb, -⟩ := hv.head
      exact ⟨b, zs, hb⟩
    · exact ⟨_, _, ‹_›⟩
    · exact ⟨_, _, ‹_›⟩

/-- Whatever the stack demands, the closing loop reads: it ends the outermost container, or
hands back a container whose item follows. -/
theorem CloseText.yields_closeLoop : ∀ (f : Nat) {accept : Bool} {frame : UInt8}
    {stack xs ys : List UInt8}, CloseText accept frame stack xs ys → xs.length ≤ f →
      ∃ o vs, Yields (skipValue.closeLoop f accept frame stack) xs o vs ∧
        vs.length ≤ xs.length ∧ Continues o vs ys
  | 0, _, _, _, xs, _, h, hf => by
    obtain ⟨b, zs, hb⟩ := h.head
    have := length_lt_of_afterBlanks hb
    omega
  | f + 1, accept, frame, stack, xs, ys, h, hf => by
    -- a closing hands on to the container around it
    have hclose : ∀ {c : UInt8} {rest : List UInt8}, afterBlanks xs = c :: rest →
        (c = 93 ∧ frame = 91) ∨ (c = 125 ∧ frame = 123) → Closes stack rest ys →
        ∃ o vs, Yields (skipValue.closeLoop (f + 1) accept frame stack) xs o vs ∧
          vs.length ≤ xs.length ∧ Continues o vs ys := by
      intro c rest hxs hc hcl
      have hlen := length_lt_of_afterBlanks hxs
      cases stack with
      | nil => exact ⟨none, rest, closeLoop_close_last hxs hc, hlen.le, hcl⟩
      | cons fr st =>
        have htext : CloseText true fr st rest ys := by rwa [CloseText, if_pos rfl]
        obtain ⟨o, vs, hy, hvs, hcont⟩ := CloseText.yields_closeLoop f htext (by omega)
        exact ⟨o, vs, (closeLoop_close_inner hxs hc).trans hy, by omega, hcont⟩
    unfold CloseText at h
    cases accept with
    | true =>
      obtain ⟨zs, hrest, hcl⟩ := h
      rcases hrest with ⟨rfl, hrest⟩ | ⟨rfl, hrest⟩
      · cases hrest with
        | close hxs => exact hclose hxs (.inl ⟨rfl, rfl⟩) hcl
        | more hxs hv hs =>
          exact ⟨_, _, closeLoop_comma hxs, (length_lt_of_afterBlanks hxs).le, Resumes.value hv hs hcl⟩
      · cases hrest with
        | close hxs => exact hclose hxs (.inr ⟨rfl, rfl⟩) hcl
        | more hxs hm hs =>
          exact ⟨_, _, closeLoop_comma hxs, (length_lt_of_afterBlanks hxs).le, Resumes.member hm hs hcl⟩
    | false =>
      obtain ⟨zs, hbody, hcl⟩ := h
      rcases hbody with ⟨rfl, hbody⟩ | ⟨rfl, hbody⟩
      · cases hbody with
        | empty hxs => exact hclose hxs (.inl ⟨rfl, rfl⟩) hcl
        | items hv hs =>
          obtain ⟨b, rest, hxs, h44, h93, h125⟩ := hv.head
          exact ⟨_, _, closeLoop_first hxs h44 h93 h125, length_afterBlanks_le xs,
            Resumes.value hv.to_afterBlanks hs hcl⟩
      · cases hbody with
        | empty hxs => exact hclose hxs (.inr ⟨rfl, rfl⟩) hcl
        | members hm hs =>
          obtain ⟨_, hxs⟩ := hm.head
          exact ⟨_, _, closeLoop_first hxs (by decide) (by decide) (by decide),
            length_afterBlanks_le xs, Resumes.member hm.to_afterBlanks hs hcl⟩

/-! ## Values -/

theorem Reader.Gives.scalar {fuel : Nat} {b : UInt8} {xs ys : List UInt8} {o : Option UInt8}
    (h : Gives (skipValue.scalar fuel b) (b :: xs) o ys) (hb : isBlankByte b = false)
    (hf : xs.length < fuel) :
    (o = none ∧ LooseValue (b :: xs) ys) ∨ ((b = 91 ∨ b = 123) ∧ o = some b ∧ ys = xs) := by
  have hblank := afterBlanks_cons hb xs
  -- a literal is its word
  have hword : ∀ {w : List UInt8}, Gives (do eat; Reader.expectWord w; Pure.pure none) (b :: xs) o ys →
      o = none ∧ xs = w ++ ys := by
    intro w hw
    obtain ⟨_, zs, hw, hp⟩ := Gives.bind (Gives.eat_bind hw)
    obtain ⟨rfl, rfl⟩ := Gives.pure hp
    exact ⟨rfl, Gives.expectWord w hw⟩
  unfold skipValue.scalar at h
  split at h
  · obtain ⟨rfl, rfl⟩ := hword h
    rename_i hn
    simp only [beq_iff_eq] at hn
    subst hn
    exact .inl ⟨rfl, .null hblank⟩
  split at h
  · obtain ⟨rfl, rfl⟩ := hword h
    rename_i hn
    simp only [beq_iff_eq] at hn
    subst hn
    exact .inl ⟨rfl, .true hblank⟩
  split at h
  · obtain ⟨rfl, rfl⟩ := hword h
    rename_i hn
    simp only [beq_iff_eq] at hn
    subst hn
    exact .inl ⟨rfl, .false hblank⟩
  split at h
  · -- a minus sign and a number
    rename_i hn
    simp only [beq_iff_eq] at hn
    subst hn
    obtain ⟨_, zs, hnum, hp⟩ := Gives.bind (Gives.eat_bind h)
    obtain ⟨rfl, rfl⟩ := Gives.pure hp
    exact .inl ⟨rfl, .negative hblank (Gives.skipNumber hnum hf.le)⟩
  split at h
  · obtain ⟨_, zs, hnum, hp⟩ := Gives.bind h
    obtain ⟨rfl, rfl⟩ := Gives.pure hp
    have hn : NumberText (b :: xs) ys := Gives.skipNumber hnum (by simp; omega)
    rw [← hblank] at hn
    exact .inl ⟨rfl, .number hn⟩
  split at h
  · -- a string
    rename_i hn
    simp only [beq_iff_eq] at hn
    subst hn
    obtain ⟨_, zs, hstr, hp⟩ := Gives.bind (Gives.eat_bind h)
    obtain ⟨rfl, rfl⟩ := Gives.pure hp
    exact .inl ⟨rfl, .string hblank (Gives.skipString fuel hstr)⟩
  split at h
  · -- an opening bracket or brace
    rename_i hn
    have h := Gives.eat_bind h
    obtain ⟨rfl, rfl⟩ := Gives.pure h
    simp only [Bool.or_eq_true, beq_iff_eq] at hn
    exact .inr ⟨hn, rfl, rfl⟩
  · exact (Refuses.failAhead _).not_gives h |>.elim

/-- The first token of a value: a whole scalar, read by the scalar step, or the opening of a
container, whose body follows. -/
theorem LooseValue.token {fuel : Nat} {xs ys : List UInt8} (h : LooseValue xs ys)
    (hf : xs.length ≤ fuel) :
    ∃ b zs, afterBlanks xs = b :: zs ∧
      (Yields (skipValue.scalar fuel b) (b :: zs) none ys ∨
        FrameBody b zs ys ∧ Yields (skipValue.scalar fuel b) (b :: zs) (some b) zs) := by
  have hlen : (afterBlanks xs).length ≤ fuel := (length_afterBlanks_le xs).trans hf
  cases h with
  | null h =>
    refine ⟨_, _, h, .inl ?_⟩
    unfold skipValue.scalar
    rw [if_pos (by decide)]
    exact (eat_bind _ _ _).trans ((expectWord_yields _ _).bind _)
  | true h =>
    refine ⟨_, _, h, .inl ?_⟩
    unfold skipValue.scalar
    rw [if_neg (by decide), if_pos (by decide)]
    exact (eat_bind _ _ _).trans ((expectWord_yields _ _).bind _)
  | false h =>
    refine ⟨_, _, h, .inl ?_⟩
    unfold skipValue.scalar
    rw [if_neg (by decide), if_neg (by decide), if_pos (by decide)]
    exact (eat_bind _ _ _).trans ((expectWord_yields _ _).bind _)
  | number h =>
    obtain ⟨d, zs, hd, hdigit⟩ := h.head
    refine ⟨d, zs, hd, .inl ?_⟩
    -- a digit is none of the bytes tested before it
    have hne : ∀ c : UInt8, ¬isDigit c → d ≠ c := by
      rintro c hc rfl
      exact hc hdigit
    unfold skipValue.scalar
    simp only [beq_iff_eq, hne 110 (by decide), hne 116 (by decide), hne 102 (by decide),
      hne 45 (by decide), hdigit, if_false, if_true]
    rw [hd] at h hlen
    exact (NumberText.yields h hlen).bind _
  | negative h hn =>
    refine ⟨_, _, h, .inl ?_⟩
    unfold skipValue.scalar
    rw [if_neg (by decide), if_neg (by decide), if_neg (by decide), if_pos (by decide)]
    rw [h] at hlen
    exact (eat_bind _ _ _).trans ((NumberText.yields hn (by simp at hlen; omega)).bind _)
  | string h hs =>
    refine ⟨_, _, h, .inl ?_⟩
    unfold skipValue.scalar
    rw [if_neg (by decide), if_neg (by decide), if_neg (by decide), if_neg (by decide),
      if_neg (by decide), if_pos (by decide)]
    rw [h] at hlen
    exact (eat_bind _ _ _).trans ((hs.yields fuel (by simp at hlen; omega)).bind _)
  | array h hs =>
    refine ⟨_, _, h, .inr ⟨.inl ⟨rfl, hs⟩, ?_⟩⟩
    unfold skipValue.scalar
    rw [if_neg (by decide), if_neg (by decide), if_neg (by decide), if_neg (by decide),
      if_neg (by decide), if_neg (by decide), if_pos (by decide)]
    exact eat_bind _ _ _
  | object h hs =>
    refine ⟨_, _, h, .inr ⟨.inr ⟨rfl, hs⟩, ?_⟩⟩
    unfold skipValue.scalar
    rw [if_neg (by decide), if_neg (by decide), if_neg (by decide), if_neg (by decide),
      if_neg (by decide), if_neg (by decide), if_pos (by decide)]
    exact eat_bind _ _ _

/-- The enclosing frame the loop is handed is pushed onto the stack before anything is read. -/
theorem skipValue.loop_succ_frames (fuel f : Nat) (enclosing : Option UInt8) (stack : List UInt8) :
    skipValue.loop fuel (f + 1) enclosing stack =
      skipValue.loop fuel (f + 1) none (enclosing.toList ++ stack) := by
  cases enclosing <;> rfl

theorem Reader.Gives.skipLoop {fuel : Nat} : ∀ (f : Nat) {enclosing : Option UInt8}
    {stack xs ys : List UInt8} {u : Unit},
    Gives (skipValue.loop fuel f enclosing stack) xs u ys → xs.length ≤ fuel →
      ∃ zs, LooseValue xs zs ∧ Closes (enclosing.toList ++ stack) zs ys
  | 0, _, _, _, _, _, h, _ => (Refuses.fail _).not_gives h |>.elim
  | f + 1, enclosing, stack, xs, ys, u, hrun, hf => by
    rw [skipValue.loop_succ_frames] at hrun
    generalize enclosing.toList ++ stack = frames at hrun ⊢
    unfold skipValue.loop at hrun
    have h := Gives.skipBlank_bind hrun
    clear hrun
    cases hzs : afterBlanks xs with
    | nil =>
      rw [hzs] at h
      exact (Refuses.failAhead _).not_gives h |>.elim
    | cons b rest =>
      rw [hzs, List.head?_cons] at h
      have hrest : rest.length < fuel := by have := length_lt_of_afterBlanks hzs; omega
      dsimp -zeta only at h
      obtain ⟨opened, ws, hscalar, hafter⟩ := Gives.bind h
      clear h
      extract_lets jp at hafter
      -- after a closing loop: the end of the outermost container, or an item of the container
      -- it hands back
      have hjp : ∀ {cont : Option (UInt8 × List UInt8)} {vs : List UInt8}, vs.length ≤ fuel →
          Gives (jp cont) vs u ys → Continues cont vs ys := by
        intro cont vs hvs hcont
        dsimp -zeta only [jp] at hcont
        rcases cont with _ | ⟨fr, st⟩
        · exact (Gives.pure hcont).2
        · rw [Continues]
          dsimp -zeta only at hcont
          extract_lets jp₂ jp₃ at hcont
          have hitem : ∀ {ws : List UInt8}, ws.length ≤ fuel → Gives (jp₂ ()) ws u ys →
              ∃ zs, LooseValue ws zs ∧ Closes (fr :: st) zs ys :=
            fun hws hw => Gives.skipLoop f hw hws
          split at hcont
          · -- an object's member: its name and a colon come before the value
            rename_i hfr
            simp only [beq_iff_eq] at hfr
            subst hfr
            simp only [Resumes, ↓reduceIte]
            have h := Gives.skipBlank_bind hcont
            cases hks : afterBlanks vs with
            | nil =>
              rw [hks] at h
              exact (Refuses.bind_of_left (Refuses.failAhead _)).not_gives h |>.elim
            | cons c vs₁ =>
              rw [hks, List.head?_cons] at h
              split at h
              · rename_i heq
                cases Option.some.inj heq
                have h := Gives.eat_bind h
                dsimp -zeta only [jp₃] at h
                obtain ⟨_, vs₂, hname, h⟩ := Gives.bind h
                have hname := Gives.skipString fuel hname
                have h := Gives.skipBlank_bind h
                cases hcs : afterBlanks vs₂ with
                | nil =>
                  rw [hcs] at h
                  exact (Refuses.bind_of_left (Refuses.failAhead _)).not_gives h |>.elim
                | cons d us =>
                  rw [hcs, List.head?_cons] at h
                  split at h
                  · rename_i heq
                    cases Option.some.inj heq
                    have hlen : us.length ≤ fuel := by
                      have := length_lt_of_afterBlanks hcs
                      have := hname.length_lt
                      have := length_lt_of_afterBlanks hks
                      omega
                    obtain ⟨zs, hv, hcl⟩ := hitem hlen (Gives.eat_bind h)
                    exact ⟨zs, .mk hks hname hcs hv, hcl⟩
                  · exact (Refuses.bind_of_left (Refuses.failAhead _)).not_gives h |>.elim
                  · exact (Refuses.bind_of_left (Refuses.failAhead _)).not_gives h |>.elim
              · exact (Refuses.bind_of_left (Refuses.failAhead _)).not_gives h |>.elim
              · exact (Refuses.bind_of_left (Refuses.failAhead _)).not_gives h |>.elim
          · rename_i hfr
            simp only [beq_iff_eq] at hfr
            simp only [Resumes, hfr, ↓reduceIte]
            exact hitem hvs hcont
      rcases Gives.scalar hscalar (afterBlanks_head hzs) hrest with ⟨rfl, hv⟩ | ⟨hb, rfl, rfl⟩
      · -- a scalar ends the containers it closes
        rw [← hzs] at hv
        have hws := hv.length_lt
        refine ⟨ws, LooseValue.of_afterBlanks hv, ?_⟩
        dsimp -zeta only at hafter
        cases frames with
        | nil =>
          dsimp -zeta only at hafter
          rw [pure_bind] at hafter
          exact @hjp none ws (by have := length_afterBlanks_le xs; omega) hafter
        | cons fr st =>
          dsimp -zeta only at hafter
          obtain ⟨cont, vs, hcl, h⟩ := Gives.bind hafter
          have hout := Gives.closeLoop f hcl
          have hvs := hout.length_le
          exact CloseOutcome.text hout (hjp (by have := length_afterBlanks_le xs; omega) h)
      · -- an opening: the loop goes on inside the container
        obtain ⟨cont, vs, hcl, h⟩ := Gives.bind hafter
        have hout := Gives.closeLoop f hcl
        have hvs := hout.length_le
        obtain ⟨zs, hbody, hcl⟩ := CloseOutcome.text hout (hjp (by omega) h)
        refine ⟨zs, ?_, hcl⟩
        rcases hbody with ⟨rfl, hitems⟩ | ⟨rfl, hmembers⟩
        · exact .array hzs hitems
        · exact .object hzs hmembers

/-- A value, then what the stack demands, is read by the loop once its counter and the fuel
of its tokens pass the length of the text. -/
theorem LooseValue.yields_loop {fuel : Nat} : ∀ (f : Nat) {enclosing : Option UInt8}
    {stack xs zs ys : List UInt8}, LooseValue xs zs → Closes (enclosing.toList ++ stack) zs ys →
      xs.length ≤ f → xs.length ≤ fuel → Yields (skipValue.loop fuel f enclosing stack) xs () ys
  | 0, _, _, _, _, _, hv, _, hf, _ => by
    have := hv.length_lt
    omega
  | f + 1, enclosing, stack, xs, zs, ys, hv, hcl, hf, hfuel => by
    rw [skipValue.loop_succ_frames]
    generalize enclosing.toList ++ stack = frames at hcl ⊢
    obtain ⟨b, rest, hxs, htoken⟩ := hv.token hfuel
    have hrest := length_lt_of_afterBlanks hxs
    unfold skipValue.loop
    refine (skipBlank_bind_after _ xs).trans ?_
    rw [hxs, List.head?_cons]
    dsimp -zeta only
    extract_lets stk jp
    simp only [stk]
    clear stk
    -- after a closing loop, an item of the container handed back is read by the loop
    have hjp : ∀ {cont : Option (UInt8 × List UInt8)} {vs : List UInt8}, vs.length < xs.length →
        Continues cont vs ys → Yields (jp cont) vs () ys := by
      intro cont vs hvs hcont
      rcases cont with _ | ⟨fr, st⟩
      · rw [Continues] at hcont
        subst hcont
        exact Yields.pure _ _
      · obtain ⟨ws, hitem, hcl⟩ := hcont
        dsimp -zeta only [jp]
        extract_lets jp₂ jp₃
        split
        · -- a member of an object: its name and a colon come before the value
          rename_i hfr
          simp only [beq_iff_eq] at hfr
          subst hfr
          rw [if_pos rfl] at hitem
          obtain @⟨_, ks, ks', us, _, hks, hname, hcs, hval⟩ := hitem
          have hus : us.length < vs.length := by
            have := length_lt_of_afterBlanks hks
            have := hname.length_lt
            have := length_lt_of_afterBlanks hcs
            omega
          refine (skipBlank_bind_after _ vs).trans ?_
          rw [hks, List.head?_cons]
          simp only
          refine (eat_bind _ _ _).trans ?_
          simp only [jp₃]
          have hks' : ks.length ≤ fuel := by
            have := length_lt_of_afterBlanks hks
            omega
          refine ((hname.yields fuel hks').bind _).trans ?_
          refine (skipBlank_bind_after _ _).trans ?_
          rw [hcs, List.head?_cons]
          simp only
          exact (eat_bind _ _ _).trans (LooseValue.yields_loop f hval hcl (by omega) (by omega))
        · rename_i hfr
          simp only [beq_iff_eq] at hfr
          rw [if_neg hfr] at hitem
          exact LooseValue.yields_loop f hitem hcl (by omega) (by omega)
    rcases htoken with hscalar | ⟨hbody, hopen⟩
    · -- a scalar: the closing loop of the containers it ends follows
      refine (hscalar.bind _).trans ?_
      have hzs := hv.length_lt
      have hafter := length_afterBlanks_le xs
      cases frames with
      | nil =>
        dsimp -zeta only
        rw [pure_bind]
        exact @hjp none zs (by omega) hcl
      | cons fr st =>
        dsimp -zeta only
        have htext : CloseText Bool.true fr st zs ys := by rwa [CloseText, if_pos rfl]
        obtain ⟨o, vs, hy, hvs, hcont⟩ := CloseText.yields_closeLoop f htext (by omega)
        exact (hy.bind _).trans (hjp (by omega) hcont)
    · -- an opening: the closing loop reads its body's first item or its end
      refine (hopen.bind _).trans ?_
      dsimp -zeta only
      have htext : CloseText Bool.false b frames rest ys := by
        rw [CloseText, if_neg Bool.false_ne_true]
        exact ⟨zs, hbody, hcl⟩
      obtain ⟨o, vs, hy, hvs, hcont⟩ := CloseText.yields_closeLoop f htext (by omega)
      exact (hy.bind _).trans (hjp (by omega) hcont)

/-- The machine passes over exactly the values of the loose grammar: what it passes over is a
`LooseValue`, -/
theorem Reader.Gives.skipValue {fuel : Nat} {xs ys : List UInt8} {u : Unit}
    (h : Gives (Reader.skipValue fuel) xs u ys) (hf : xs.length ≤ fuel) : LooseValue xs ys := by
  unfold Reader.skipValue at h
  obtain ⟨zs, hv, hcl⟩ := Gives.skipLoop fuel h hf
  -- no container is open around the value
  rwa [show ys = zs from hcl]

/-- and it passes over every `LooseValue` once the fuel passes the length of the text. -/
theorem LooseValue.yields_skipValue {fuel : Nat} {xs ys : List UInt8} (h : LooseValue xs ys)
    (hf : xs.length ≤ fuel) : Yields (Reader.skipValue fuel) xs () ys := by
  unfold Reader.skipValue
  exact h.yields_loop fuel (rfl : Closes [] ys ys) hf hf

end Tintbook.Json
