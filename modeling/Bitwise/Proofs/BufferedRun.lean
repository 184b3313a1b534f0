import Bitwise.Proofs.DescentRun
import Bitwise.Proofs.Lookahead
import Bitwise.Proofs.Partition

/-!
# Runs with a buffer

A text is parsed by a run that begins with an empty buffer (`Routine.Point.ofString`). Each of its
points comes to what the descent comes to, if that goes on from where the tokens of the buffer are
still to be read (`Routine.Point.ComesTo`). So the run ends as the parser does.

At all points of the run the tokens of the text are where they should be, in order
(`parse_handles_tokens`): those that have been taken, those in the buffer and those that are still
to come. And where the parser fails, the scanner has been asked for the token at fault and for those
before it, but for none after it.
-/

namespace Bitwise

/-! ## Points of a run and the descent -/

section Pulls

variable {s s' s'' : Scanner} {t : Token} {ts : List Token} {e : ParseError} {n : Nat}

/-- A scanner tells tokens, and then it is another one. -/
inductive Scanner.Pulls : Scanner → List Token → Scanner → Prop
  | nil {s : Scanner} : Pulls s [] s
  | cons {s s' s'' : Scanner} {t : Token} {ts : List Token} : s.pull = .ok (t, s') →
    Pulls s' ts s'' → Pulls s (t :: ts) s''

theorem Scanner.Pulls.concat (h : s.Pulls ts s') (ht : s'.pull = .ok (t, s'')) :
    s.Pulls (ts ++ [t]) s'' := by
  induction h with
  | nil => exact .cons ht .nil
  | cons hpull _ ih => exact .cons hpull (ih ht)

theorem Scanner.pull_of_legal (h : s.next? = some (t, s')) (ht : t.kind ≠ .illegal) :
    s.pull = .ok (t, s') := by
  simp only [pull, h, if_neg ht]

theorem Scanner.pull_of_illegal (h : s.next? = some (t, s')) (ht : t.kind = .illegal) :
    s.pull = .error (.lexical t.text t.span) := by
  simp only [pull, h, if_pos ht]

theorem Descent.run'_bind_of_yields {α β : Type} {x : Descent α} {f : α → Descent β} {a : α}
    (hx : Yields x s (.ok (a, s'))) : ((x >>= f).run' s).run = ((f a).run' s').run := by
  rw [StateT.run'_eq, StateT.run'_eq, StateT.run_bind, ExceptT.run_map, ExceptT.run_map,
    ExceptT.run_bind, hx]
  rfl

/-- A descent looks at a token that is some tokens ahead. -/
theorem Descent.yields_peek (h : s.Pulls ts s') (ht : ts[n]? = some t) :
    Yields (peek n) s (.ok (t.kind, s)) := by
  induction h generalizing n with
  | nil => cases ht
  | @cons s s' s'' u us hpull _ ih =>
    rcases n with _ | n
    · obtain rfl : u = t := Option.some.inj ht
      exact yields_peek_zero hpull
    · exact (yields_get s).bind ((yields_next hpull).bind ((ih ht).bind
        ((yields_set s' s).bind (yields_pure t.kind s))))

/-- A descent looks for a token, and there is an illegal one before. -/
theorem Descent.yields_peek_error (h : s.Pulls ts s') (hlen : ts.length ≤ n)
    (he : s'.pull = .error e) : Yields (peek n) s (.error e.failure) := by
  induction h generalizing n with
  | @nil s =>
    rcases n with _ | n
    · exact yields_peek_zero_error he
    · exact (yields_get s).bind (yields_next_error he).bind_error
  | @cons s s' s'' u us hpull _ ih =>
    rcases n with _ | n
    · cases hlen
    · have later := ih (Nat.le_of_succ_le_succ hlen) he
      exact (yields_get s).bind ((yields_next hpull).bind later.bind_error)

end Pulls

namespace Routine

variable {α : Type} {x y : Point α} {Q : α → TokenBuffer → Prop}

/-- The end of a routine, with a result. -/
def ofResult : Except Failure α → Routine α
  | .ok a => .done a
  | .error failure => .fail failure

namespace Point

/-- What is still to be done has a result, if a descent does it and reads the tokens of the buffer
    once more. They cannot be read if an illegal token has come after them, but then nothing is to
    be done. -/
def ComesTo (result : Option (Except Failure α)) (x : Point α) : Prop :=
  (∃ s : Scanner, s.Pulls x.buffer.ahead x.buffer.scanner ∧
    (x.routine.descend.run' s).run = result) ∨
  ∃ failure, x.routine = .fail failure ∧ result = some (.error failure)

/-- What a descent comes to is kept by all advances. -/
theorem ComesTo.advance {result : Option (Except Failure α)} (h : x.ComesTo result)
    (hxy : x.Advance y) : y.ComesTo result := by
  rcases h with ⟨s, hs, hresult⟩ | ⟨failure, hfail, -⟩
  swap
  · cases hxy <;> cases hfail
  cases hxy with
  | fetch _ _ hnext ht => exact .inl ⟨s, hs.concat (Scanner.pull_of_legal hnext ht), hresult⟩
  | rejectAhead _ hlen hnext ht =>
    have failed := Descent.yields_peek_error hs hlen (Scanner.pull_of_illegal hnext ht)
    exact .inr ⟨_, rfl, hresult.symm.trans (Descent.run'_of_yields failed.bind_error)⟩
  | seen _ hseen =>
    have looks := Descent.yields_peek hs hseen
    exact .inl ⟨s, hs, (Descent.run'_bind_of_yields looks).symm.trans hresult⟩
  | takeSeen hahead =>
    rw [hahead] at hs
    cases hs with
    | cons hpull hrest =>
      have takes := Descent.yields_next hpull
      exact .inl ⟨_, hrest, (Descent.run'_bind_of_yields takes).symm.trans hresult⟩
  | @takeNew next b t s' hahead hnext ht =>
    rw [hahead] at hs
    cases hs
    have takes := Descent.yields_next (Scanner.pull_of_legal hnext ht)
    refine .inl ⟨s', ?_, (Descent.run'_bind_of_yields takes).symm.trans hresult⟩
    change s'.Pulls b.ahead s'
    rw [hahead]
    exact .nil
  | rejectNew hahead hnext ht =>
    rw [hahead] at hs
    cases hs
    have failed := Descent.yields_next_error (Scanner.pull_of_illegal hnext ht)
    exact .inr ⟨_, rfl, hresult.symm.trans (Descent.run'_of_yields failed.bind_error)⟩

/-- A run that proceeds ends with the result. -/
theorem ComesTo.routine_eq {result : Except Failure α} (h : x.ComesTo (some result))
    (hx : x.Proceeds Q) (hend : x.step = none) : x.routine = .ofResult result := by
  cases hx with
  | done _ =>
    rcases h with ⟨s, -, hresult⟩ | ⟨failure, hfail, -⟩
    · cases hresult
      rfl
    · cases hfail
  | fail _ _ =>
    rcases h with ⟨s, -, hresult⟩ | ⟨failure, hfail, hresult⟩
    · cases hresult
      rfl
    · cases hresult
      exact hfail
  | unfinished =>
    rcases h with ⟨s, -, hresult⟩ | ⟨failure, hfail, -⟩
    · cases hresult
    · cases hfail
  | advance hxy _ => cases hxy.step_eq.symm.trans hend

/-- The run that parses a text starts with an empty buffer. -/
def ofString (source : String) : Point Node :=
  ⟨.whole (Descent.callsFor (.ofString source)), .ofString source⟩

theorem comesTo_ofString (source : String) :
    (ofString source).ComesTo (some ((parse source).mapError ParseError.failure)) := by
  refine .inl ⟨.ofString source, .nil, ?_⟩
  rw [← Descent.parse_eq, Descent.parse, ← descend_whole]
  rfl

theorem proceeds_ofString (source : String) : (ofString source).Proceeds fun _ _ => True :=
  proceeds_whole (TokenBuffer.settled_ofString source) _

/-- What is known at every point of the run that parses a text. -/
theorem of_reachable {source : String} {x : Point Node} (hx : Reachable (ofString source) x) :
    x.Sound (tokenize source) ∧
      x.ComesTo (some ((parse source).mapError ParseError.failure)) ∧
      x.Proceeds fun _ _ => True := by
  have invariant := (proceeds_ofString source).of_reachable
    (P := fun x => x.Sound (tokenize source) ∧
      x.ComesTo (some ((parse source).mapError ParseError.failure)))
    ⟨sound_start _ source, comesTo_ofString source⟩
    (fun _ _ hadvance h => ⟨h.1.advance hadvance, h.2.advance hadvance⟩) hx
  exact ⟨invariant.1.1, invariant.1.2, invariant.2⟩

-- a name is still in the buffer when the character after it is found to be illegal
example : ((((ofString "a $").step.bind step).bind step).bind step).map
      (fun x => (x.buffer.ahead, x.buffer.rejected)) =
    some ([⟨.identifier, "a", ⟨0, 1⟩⟩], some ⟨.illegal, "unexpected '$' at 2", ⟨2, 3⟩⟩) := by
  decide +kernel

end Point

end Routine

/-! ## Failures and their tokens -/

section Failures

variable {source : String} {failure : Failure} {t u : Token} {i j : Nat}

/-- Tokens at different places span different pieces. -/
theorem index_eq_of_span_eq (ht : (tokenize source)[i]? = some t)
    (hu : (tokenize source)[j]? = some u) (h : t.span = u.span) : i = j := by
  have ordered : (tokenize source).Pairwise fun t u =>
      t.span.start < u.span.start ∧ t.span.stop ≤ u.span.start :=
    (divided_tokensAt 0 source.toList).pairwise
  obtain ⟨hi, rfl⟩ := List.getElem?_eq_some_iff.1 ht
  obtain ⟨hj, rfl⟩ := List.getElem?_eq_some_iff.1 hu
  rw [List.pairwise_iff_getElem] at ordered
  rcases Nat.lt_trichotomy i j with hlt | heq | hlt
  · exact absurd (ordered i j hi hj hlt).1 (by rw [h]; exact Nat.lt_irrefl _)
  · exact heq
  · exact absurd (ordered j i hj hi hlt).1 (by rw [h]; exact Nat.lt_irrefl _)

/-- A failure is at one place of a text only. -/
theorem Failure.At.index_eq (ht : failure.At t) (hu : failure.At u)
    (hi : (tokenize source)[i]? = some t) (hj : (tokenize source)[j]? = some u) : i = j := by
  rcases failure with ⟨diagnostic, span⟩ | ⟨label, found⟩ | label | ⟨text, span, reason⟩ | span
  case unexpectedEnd =>
    have upToLast : UpToLast (tokenize source) := exists_tokensAt_eq_append 0 source.toList
    have lastAt {v : Token} (hv : v.kind = .endOfInput) : v.kind.isLast = true := by rw [hv]; rfl
    have same := (upToLast.index_eq hi (lastAt ht)).trans (upToLast.index_eq hj (lastAt hu)).symm
    exact Nat.succ.inj same
  case tooDeep => exact index_eq_of_span_eq hi hj (ht.2.trans hu.2.symm)
  all_goals exact index_eq_of_span_eq hi hj (congrArg Token.span (Eq.trans ht hu.symm))

/-- A run that has failed has asked for the token at which it fails, and for none after it. -/
theorem Routine.Point.exists_index_of_fail {x : Point Node}
    (hx : Reachable (.ofString source) x) (hfail : x.routine = .fail failure) :
    ∃ i t, (tokenize source)[i]? = some t ∧ failure.At t ∧ x.buffer.answers.length = i + 1 := by
  obtain ⟨⟨order, answers, -, -⟩, -, proceeds⟩ := of_reachable hx
  obtain ⟨routine, b⟩ := x
  obtain rfl : routine = .fail failure := hfail
  cases proceeds with
  | advance hxy _ => cases hxy
  | @fail _ _ t hat hlast =>
    obtain ⟨ts, hts⟩ := List.getLast?_eq_some_iff.1 hlast
    refine ⟨ts.length, t, ?_, hat, ?_⟩
    · rw [← order, hts, List.append_assoc, List.getElem?_append_right (Nat.le_refl _),
        Nat.sub_self]
      rfl
    · rw [answers, hts, List.length_map, List.length_append, List.length_singleton]

end Failures

section Handling

open Routine.Point (Reachable)

/-- The run that parses a text handles its tokens through a buffer as it should. -/
structure HandlesTokens (source : String) : Prop where
  /-- At each point, the tokens that have been taken, those in the buffer and those that are still
      to come are the tokens of the text, in order. Behind those in the buffer stands the illegal
      one, which has been taken by the error that reports it. -/
  order : ∀ x, Reachable (.ofString source) x →
    x.buffer.taken ++ x.buffer.ahead ++ x.buffer.rejected.toList ++ x.buffer.scanner.tokens =
      tokenize source
  reported : ∀ x, Reachable (.ofString source) x → ∀ t ∈ x.buffer.rejected,
    t.kind = .illegal ∧ x.routine = .fail (.lexical t.text t.span)
  /-- The buffer does not hold more than two tokens. -/
  length_le : ∀ x, Reachable (.ofString source) x → x.buffer.ahead.length ≤ 2
  /-- Only the next token and the one after it are looked at, so no check of that ever fails. -/
  checks : ∀ x, Reachable (.ofString source) x → x.routine ≠ .crash ∧
    ∀ offset next, x.routine = .look offset next → offset = 0 ∨ offset = 1
  /-- The scanner is not asked again after it has told its last token. -/
  answers : ∀ x, Reachable (.ofString source) x → none ∉ x.buffer.answers
  /-- The run ends, and it ends as the parser does. -/
  ends : ∃ x, Reachable (.ofString source) x ∧ x.step = none
  result : ∀ x, Reachable (.ofString source) x → x.step = none →
    x.routine = .ofResult ((parse source).mapError ParseError.failure)
  /-- If the parser fails, then it does so at one of the tokens, and the scanner has been asked for
      this token and those before it. -/
  failure : ∀ e, parse source = .error e → ∃ i t, (tokenize source)[i]? = some t ∧
    e.failure.At t ∧ (∀ j u, (tokenize source)[j]? = some u → e.failure.At u → j = i) ∧
    ∀ x, Reachable (.ofString source) x → x.step = none → x.buffer.answers.length = i + 1

/-- The buffer neither loses nor repeats a token, and none is read too early. -/
theorem parse_handles_tokens (source : String) : HandlesTokens source where
  order x hx := (Routine.Point.of_reachable hx).1.order
  reported x hx := (Routine.Point.of_reachable hx).1.reported
  length_le x hx := (Routine.Point.of_reachable hx).1.length_le
  checks x hx := by
    obtain ⟨-, -, proceeds⟩ := Routine.Point.of_reachable hx
    refine ⟨proceeds.routine_ne_crash, fun offset next hlook => ?_⟩
    exact Nat.le_one_iff_eq_zero_or_eq_one.1 (Nat.le_of_lt_succ (proceeds.offset_lt hlook))
  answers x hx := by
    rw [(Routine.Point.of_reachable hx).1.answers, List.mem_map]
    rintro ⟨t, -, ht⟩
    cases ht
  ends := (Routine.Point.proceeds_ofString source).exists_reachable .start
  result x hx hend := by
    obtain ⟨-, comesTo, proceeds⟩ := Routine.Point.of_reachable hx
    exact comesTo.routine_eq proceeds hend
  failure e he := by
    have located : ∀ x, Reachable (.ofString source) x → x.step = none → ∃ i t,
        (tokenize source)[i]? = some t ∧ e.failure.At t ∧
          x.buffer.answers.length = i + 1 := by
      intro x hx hend
      obtain ⟨-, comesTo, proceeds⟩ := Routine.Point.of_reachable hx
      have fails := comesTo.routine_eq proceeds hend
      rw [he] at fails
      exact Routine.Point.exists_index_of_fail hx fails
    obtain ⟨x, hx, hend⟩ := (Routine.Point.proceeds_ofString source).exists_reachable .start
    obtain ⟨i, t, hi, ht, -⟩ := located x hx hend
    refine ⟨i, t, hi, ht, fun j u hj hu => hu.index_eq ht hj hi, fun y hy hyend => ?_⟩
    obtain ⟨j, u, hj, hu, hlength⟩ := located y hy hyend
    rw [hlength, hu.index_eq ht hj hi]

end Handling

end Bitwise
