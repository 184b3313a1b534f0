import Bitwise.Proofs.Nesting

/-!
# Partners

Which parentheses of a text belong together. They are matched with a stack: a closing parenthesis
is the partner of the last opening one that has none yet (`Session.pairs`). What comes of this can
be said without the stack as well: two parentheses are partners exactly if all parentheses between
them have their partners there (`Session.mem_pairs_iff`).

In the middle of a text the stack holds the parentheses that may still get a partner, and those
before it that are not on the stack have been decided on (`Session.Pairing`). What the stack does
with the next character is known from this, and so is that no parenthesis has two partners.
-/

namespace Bitwise

open Text (byteLength)

/-- The texts in which every parenthesis has its partner. -/
inductive Text.SelfContained : List Char → Prop
  | nil : SelfContained []
  | other {c : Char} {cs : List Char} : isParen c = false → SelfContained cs →
    SelfContained (c :: cs)
  | group {inside cs : List Char} : SelfContained inside → SelfContained cs →
    SelfContained ('(' :: (inside ++ ')' :: cs))

theorem Text.SelfContained.append {cs ds : List Char} (h : SelfContained cs)
    (h' : SelfContained ds) : SelfContained (cs ++ ds) := by
  induction h with
  | nil => exact h'
  | other hc _ ih => exact .other hc ih
  | group hinside _ _ ih =>
    rw [List.cons_append, List.append_assoc, List.cons_append]
    exact .group hinside ih

theorem ne_of_isParen_eq_false {c : Char} (h : isParen c = false) : c ≠ '(' ∧ c ≠ ')' := by
  rwa [isParen, Bool.or_eq_false_iff, beq_eq_false_iff_ne, beq_eq_false_iff_ne] at h

namespace Session

/-- Two parentheses that belong together, by the offsets at which they stand. -/
structure Pair where
  opened : Nat
  closed : Nat
  deriving DecidableEq

/-- Whether one of the two parentheses stands at an offset. -/
def Pair.Has (p : Pair) (offset : Nat) : Prop :=
  offset = p.opened ∨ offset = p.closed

instance (p : Pair) (offset : Nat) : Decidable (p.Has offset) :=
  inferInstanceAs (Decidable (_ ∨ _))

/-- The pairs that a stack finds in a text that stands at an offset, if the parentheses at the
    offsets on it have been opened before and not been closed, the last of them first. -/
def pairs (stack : List Nat) (offset : Nat) : List Char → List Pair
  | [] => []
  | c :: cs =>
    if c = '(' then pairs (offset :: stack) (offset + c.utf8Size) cs
    else if c = ')' then
      match stack with
      | [] => pairs [] (offset + c.utf8Size) cs
      | opened :: stack => ⟨opened, offset⟩ :: pairs stack (offset + c.utf8Size) cs
    else pairs stack (offset + c.utf8Size) cs

variable {stack : List Nat} {offset i : Nat} {cs ds : List Char} {p : Pair}

@[simp] theorem pairs_nil : pairs stack offset [] = [] := rfl

theorem pairs_openParen (stack : List Nat) (offset : Nat) (cs : List Char) :
    pairs stack offset ('(' :: cs) = pairs (offset :: stack) (offset + 1) cs := rfl

theorem pairs_closeParen (opened : Nat) (stack : List Nat) (offset : Nat) (cs : List Char) :
    pairs (opened :: stack) offset (')' :: cs) =
      ⟨opened, offset⟩ :: pairs stack (offset + 1) cs := rfl

theorem pairs_closeParen_nil (offset : Nat) (cs : List Char) :
    pairs [] offset (')' :: cs) = pairs [] (offset + 1) cs := rfl

theorem pairs_other {c : Char} (h : isParen c = false) (stack : List Nat) (offset : Nat)
    (cs : List Char) : pairs stack offset (c :: cs) = pairs stack (offset + c.utf8Size) cs := by
  obtain ⟨hopen, hclose⟩ := ne_of_isParen_eq_false h
  rw [pairs.eq_def]
  dsimp only
  rw [if_neg hopen, if_neg hclose]

/-- Every character is a parenthesis of one of the two kinds or none. -/
theorem paren_cases (c : Char) : c = '(' ∨ c = ')' ∨ isParen c = false := by
  by_cases h : isParen c = true
  · rw [isParen, Bool.or_eq_true, beq_iff_eq, beq_iff_eq] at h
    exact h.imp_right .inl
  · exact .inr (.inr (eq_false_of_ne_true h))

/-! ## What stands between partners -/

/-- Two parentheses of a text are partners if every parenthesis between them has its partner there
    too. -/
inductive Partners : List Char → Pair → Prop
  | mk {before inside after : List Char} : Text.SelfContained inside →
    Partners (before ++ '(' :: (inside ++ ')' :: after))
      ⟨byteLength before, byteLength (before ++ '(' :: inside)⟩

/-- What has been found in the beginning of a text does not depend on the rest. -/
theorem exists_pairs_append (stack : List Nat) (offset : Nat) (cs : List Char) :
    ∃ left, ∀ ds, pairs stack offset (cs ++ ds) =
      pairs stack offset cs ++ pairs left (offset + byteLength cs) ds := by
  induction cs generalizing stack offset with
  | nil => exact ⟨stack, fun _ => rfl⟩
  | cons c cs ih =>
    simp only [Text.byteLength_cons, ← Nat.add_assoc]
    rcases paren_cases c with rfl | rfl | hc
    · exact ih (offset :: stack) (offset + 1)
    · cases stack with
      | nil => exact ih [] (offset + 1)
      | cons opened stack =>
        obtain ⟨left, hleft⟩ := ih stack (offset + 1)
        exact ⟨left, fun ds => congrArg _ (hleft ds)⟩
    · obtain ⟨left, hleft⟩ := ih stack (offset + c.utf8Size)
      refine ⟨left, fun ds => ?_⟩
      rw [List.cons_append, pairs_other hc, pairs_other hc, hleft]

/-- A text in which every parenthesis has its partner leaves the stack as it is. -/
theorem pairs_append_of_selfContained (h : Text.SelfContained cs) (stack : List Nat) (offset : Nat)
    (ds : List Char) : pairs stack offset (cs ++ ds) =
      pairs [] offset cs ++ pairs stack (offset + byteLength cs) ds := by
  induction h generalizing stack offset ds with
  | nil => rfl
  | other hc _ ih =>
    rw [List.cons_append, pairs_other hc, pairs_other hc, ih, Text.byteLength_cons, Nat.add_assoc]
  | @group inside cs _ _ ihinside ih =>
    have stop : offset + byteLength ('(' :: (inside ++ ')' :: cs)) =
        offset + 1 + byteLength inside + 1 + byteLength cs := by
      simp only [Text.byteLength_cons, Text.byteLength_append]
      have one : '('.utf8Size = 1 ∧ ')'.utf8Size = 1 := ⟨rfl, rfl⟩
      omega
    rw [List.cons_append, List.append_assoc, List.cons_append, pairs_openParen, pairs_openParen,
      ihinside, ihinside, pairs_closeParen, pairs_closeParen, ih, stop]
    simp only [List.append_assoc, List.cons_append]

/-- The offsets of the parentheses that have been opened in the text before and have no partner
    there, the last first. -/
inductive Opens : List Nat → List Char → Prop
  | nil {read : List Char} : Opens [] read
  | cons {stack : List Nat} {before inside : List Char} : Opens stack before →
    Text.SelfContained inside → Opens (byteLength before :: stack) (before ++ '(' :: inside)

theorem Opens.append (h : Opens stack cs) (hds : Text.SelfContained ds) :
    Opens stack (cs ++ ds) := by
  cases h with
  | nil => exact .nil
  | cons h hinside =>
    rw [List.append_assoc, List.cons_append]
    exact .cons h (hinside.append hds)

/-- What is found with a stack of parentheses that are open are partners. -/
theorem Opens.partners_of_mem_pairs {read : List Char} (h : Opens stack read)
    (hp : p ∈ pairs stack (byteLength read) cs) : Partners (read ++ cs) p := by
  induction cs generalizing stack read with
  | nil => exact absurd hp List.not_mem_nil
  | cons c cs ih =>
    -- the text before is put together with the character, and then read on
    have next : ∀ {stack' : List Nat}, Opens stack' (read ++ [c]) →
        p ∈ pairs stack' (byteLength read + c.utf8Size) cs → Partners (read ++ c :: cs) p := by
      intro stack' hopens hp
      have step := ih hopens (by rwa [Text.byteLength_append])
      rwa [List.append_assoc] at step
    rcases paren_cases c with rfl | rfl | hc
    · exact next (.cons h .nil) hp
    · cases h with
      | nil => exact next .nil hp
      | @cons stack before inside h hinside =>
        rcases List.mem_cons.1 hp with rfl | hp
        · rw [List.append_assoc, List.cons_append]
          exact .mk hinside
        · have grouped := h.append (.group hinside .nil)
          refine next ?_ hp
          rwa [List.append_assoc, List.cons_append]
    · rw [pairs_other hc] at hp
      exact next (h.append (.other hc .nil)) hp

/-- The stack finds exactly the partners. -/
theorem mem_pairs_iff : p ∈ pairs [] 0 cs ↔ Partners cs p := by
  constructor
  · intro hp
    have start : Opens [] [] := .nil
    exact start.partners_of_mem_pairs hp
  · rintro @⟨before, inside, after, hinside⟩
    obtain ⟨left, hleft⟩ := exists_pairs_append [] 0 before
    have place : byteLength (before ++ '(' :: inside) =
        byteLength before + 1 + byteLength inside := by
      rw [Text.byteLength_append, Text.byteLength_cons, ← Nat.add_assoc]
      rfl
    rw [hleft, Nat.zero_add, pairs_openParen, pairs_append_of_selfContained hinside,
      pairs_closeParen, place]
    exact List.mem_append_right _ (List.mem_append_right _ List.mem_cons_self)

/-! ## The stack in the middle of a text -/

/-- The pairs that are yet to be found consist of parentheses that are open or stand in the rest of
    the text. -/
theorem mem_or_le_of_has (hp : p ∈ pairs stack offset cs) (hi : p.Has i) :
    i ∈ stack ∨ offset ≤ i := by
  induction cs generalizing stack offset with
  | nil => exact absurd hp List.not_mem_nil
  | cons c cs ih =>
    rcases paren_cases c with rfl | rfl | hc
    · rcases ih hp with h | h
      · rcases List.mem_cons.1 h with rfl | h
        · exact .inr (Nat.le_refl _)
        · exact .inl h
      · exact .inr (Nat.le_of_succ_le h)
    · cases stack with
      | nil => exact (ih hp).imp_right Nat.le_of_succ_le
      | cons opened stack =>
        rcases List.mem_cons.1 hp with rfl | hp
        · rcases hi with rfl | rfl
          · exact .inl List.mem_cons_self
          · exact .inr (Nat.le_refl _)
        · exact (ih hp).imp (List.mem_cons_of_mem _) Nat.le_of_succ_le
    · rw [pairs_other hc] at hp
      exact (ih hp).imp_right (Nat.le_trans (Nat.le_add_right _ _))

/-- A stack in the middle of a text: all pairs are those that have been found, of which nothing is
    open or yet to come, and those that it finds in the rest. -/
structure Pairing (matched : List Pair) (stack : List Nat) (offset : Nat) (rest : List Char) :
    Prop where
  split : ∃ found, matched = found ++ pairs stack offset rest ∧
    ∀ p ∈ found, ∀ i, p.Has i → i < offset ∧ i ∉ stack
  distinct : stack.Nodup
  before : ∀ i ∈ stack, i < offset

/-- The parenthesis at an offset has no partner. -/
def Unpaired (matched : List Pair) (offset : Nat) : Prop :=
  ∀ p ∈ matched, ¬p.Has offset

instance (matched : List Pair) (offset : Nat) : Decidable (Unpaired matched offset) :=
  inferInstanceAs (Decidable (∀ p ∈ matched, ¬p.Has offset))

namespace Pairing

variable {matched : List Pair} {opened : Nat} {rest : List Char}

theorem initial (cs : List Char) : Pairing (pairs [] 0 cs) [] 0 cs where
  split := ⟨[], rfl, List.forall_mem_nil _⟩
  distinct := List.nodup_nil
  before := List.forall_mem_nil _

theorem openParen (h : Pairing matched stack offset ('(' :: rest)) :
    Pairing matched (offset :: stack) (offset + 1) rest where
  split := by
    obtain ⟨found, hmatched, hfound⟩ := h.split
    refine ⟨found, hmatched, fun p hp i hi => ?_⟩
    obtain ⟨hlt, hnot⟩ := hfound p hp i hi
    refine ⟨Nat.lt_succ_of_lt hlt, fun hmem => ?_⟩
    rcases List.mem_cons.1 hmem with rfl | hmem
    · exact Nat.lt_irrefl _ hlt
    · exact hnot hmem
  distinct := List.nodup_cons.2 ⟨fun hmem => Nat.lt_irrefl _ (h.before _ hmem), h.distinct⟩
  before := List.forall_mem_cons.2
    ⟨Nat.lt_succ_self _, fun i hi => Nat.lt_succ_of_lt (h.before i hi)⟩

theorem closeParen (h : Pairing matched (opened :: stack) offset (')' :: rest)) :
    Pairing matched stack (offset + 1) rest where
  split := by
    obtain ⟨found, hmatched, hfound⟩ := h.split
    obtain ⟨hnew, -⟩ := List.nodup_cons.1 h.distinct
    obtain ⟨hopened, hstack⟩ := List.forall_mem_cons.1 h.before
    refine ⟨found ++ [⟨opened, offset⟩], ?_, fun p hp i hi => ?_⟩
    · rw [hmatched, pairs_closeParen, List.append_assoc]
      rfl
    · rcases List.mem_append.1 hp with hp | hp
      · obtain ⟨hlt, hnot⟩ := hfound p hp i hi
        exact ⟨Nat.lt_succ_of_lt hlt, fun hmem => hnot (List.mem_cons_of_mem _ hmem)⟩
      · obtain rfl := List.mem_singleton.1 hp
        rcases hi with rfl | rfl
        · exact ⟨Nat.lt_succ_of_lt hopened, hnew⟩
        · exact ⟨Nat.lt_succ_self _, fun hmem => Nat.lt_irrefl _ (hstack _ hmem)⟩
  distinct := (List.nodup_cons.1 h.distinct).2
  before := fun i hi => Nat.lt_succ_of_lt (h.before i (List.mem_cons_of_mem _ hi))

/-- Characters after which the stack is what it was before. -/
theorem skip {c : Char} (h : Pairing matched stack offset (c :: rest))
    (hc : pairs stack offset (c :: rest) = pairs stack (offset + c.utf8Size) rest) :
    Pairing matched stack (offset + c.utf8Size) rest where
  split := by
    obtain ⟨found, hmatched, hfound⟩ := h.split
    refine ⟨found, hc ▸ hmatched, fun p hp i hi => ?_⟩
    obtain ⟨hlt, hnot⟩ := hfound p hp i hi
    exact ⟨Nat.lt_add_right _ hlt, hnot⟩
  distinct := h.distinct
  before := fun i hi => Nat.lt_add_right _ (h.before i hi)

/-- What is on the stack and what closes it are partners, and have no other. -/
theorem eq_of_has (h : Pairing matched (opened :: stack) offset (')' :: rest)) (hp : p ∈ matched)
    (hi : i = opened ∨ i = offset) (hhas : p.Has i) : p = ⟨opened, offset⟩ := by
  obtain ⟨found, hmatched, hfound⟩ := h.split
  obtain ⟨hnew, -⟩ := List.nodup_cons.1 h.distinct
  rw [hmatched, pairs_closeParen, List.mem_append, List.mem_cons] at hp
  rcases hp with hp | rfl | hp
  · -- neither has been decided on before
    obtain ⟨hlt, hnot⟩ := hfound p hp i hhas
    rcases hi with rfl | rfl
    · exact absurd List.mem_cons_self hnot
    · exact absurd hlt (Nat.lt_irrefl _)
  · rfl
  · -- neither comes up again
    rcases mem_or_le_of_has hp hhas, hi with ⟨hmem | hle, rfl | rfl⟩
    · exact absurd hmem hnew
    · exact absurd (h.before _ (List.mem_cons_of_mem _ hmem)) (Nat.lt_irrefl _)
    · exact absurd (h.before _ List.mem_cons_self) (Nat.not_lt.2 (Nat.le_of_succ_le hle))
    · exact absurd hle (Nat.not_succ_le_self _)

theorem mem_matched (h : Pairing matched (opened :: stack) offset (')' :: rest)) :
    ⟨opened, offset⟩ ∈ matched := by
  obtain ⟨found, hmatched, -⟩ := h.split
  rw [hmatched]
  exact List.mem_append_right _ List.mem_cons_self

/-- What closes nothing has no partner. -/
theorem unpaired_closeParen (h : Pairing matched [] offset (')' :: rest)) :
    Unpaired matched offset := by
  obtain ⟨found, hmatched, hfound⟩ := h.split
  intro p hp hhas
  rw [hmatched, pairs_closeParen_nil, List.mem_append] at hp
  rcases hp with hp | hp
  · exact Nat.lt_irrefl _ (hfound p hp offset hhas).1
  · rcases mem_or_le_of_has hp hhas with hmem | hle
    · exact List.not_mem_nil hmem
    · exact Nat.not_succ_le_self _ hle

/-- What is open at the end has no partner. -/
theorem unpaired_of_mem (h : Pairing matched stack offset []) (hi : i ∈ stack) :
    Unpaired matched i := by
  obtain ⟨found, hmatched, hfound⟩ := h.split
  intro p hp hhas
  rw [hmatched, pairs_nil, List.append_nil] at hp
  exact (hfound p hp i hhas).2 hi

end Pairing

end Session

end Bitwise
