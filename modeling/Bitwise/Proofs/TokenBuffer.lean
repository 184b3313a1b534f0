import Bitwise.Proofs.Routine
import Bitwise.Proofs.Spelling

/-!
# Token buffers

A run of a routine keeps the tokens that it has looked at in a buffer until they are taken, and
asks the scanner for one more only if the buffer holds too few (`Routine.Point.step`). At each point
of a run things could be wrong: the routine could look further ahead than it is meant to, or at a
place that the buffer does not have, and the scanner could be asked after it has told its last
token. A step where nothing is wrong is an advance (`Routine.Point.Advance`).

Whatever the routine is, an advance keeps the order of the tokens and the bound of the buffer
(`Routine.Point.Sound.advance`). Which routines advance is put together along their texts
(`Routine.Point.Proceeds`), and a run of one that does makes no other steps
(`Routine.Point.Proceeds.of_reachable`).
-/

namespace Bitwise

open Text (byteLength)

/-- How many tokens a buffer holds at most. -/
def maxLookahead : Nat := 2

/-- Where a failure is: at the token that it tells of, or at the end of the text. -/
def Failure.At (t : Token) : Failure → Prop
  | .lexical diagnostic span => t = ⟨.illegal, diagnostic, span⟩
  | .unexpectedToken _ found => t = found
  | .unexpectedEnd _ => t.kind = .endOfInput
  | .invalidNumber text span _ => t = ⟨.number, text, span⟩
  | .tooDeep span => t.kind = .openParen ∧ t.span = span

/-- Tokens on their way from a scanner to a routine. -/
structure TokenBuffer where
  /-- The tokens that have been taken. -/
  taken : List Token
  /-- The tokens that have been looked at and not yet been taken. -/
  ahead : List Token
  /-- The illegal token that an error reports, if there is one. -/
  rejected : Option Token
  /-- What the next tokens are read from. -/
  scanner : Scanner
  /-- Where the text ends. -/
  stop : Nat
  /-- What the scanner has answered, each time that it was asked. -/
  answers : List (Option Token)

namespace TokenBuffer

/-- The buffer before a text has been read. -/
def ofString (source : String) : TokenBuffer :=
  ⟨[], [], none, .ofString source, byteLength source.toList, []⟩

/-- The tokens that have come from the scanner. -/
def fetched (b : TokenBuffer) : List Token :=
  b.taken ++ b.ahead ++ b.rejected.toList

/-- The buffer after the scanner has answered with a token. -/
def answered (b : TokenBuffer) (t : Token) (s : Scanner) : TokenBuffer :=
  { b with scanner := s, answers := b.answers ++ [some t] }

/-- Asks the scanner for a token. If it has none left, then the end of the text stands in for one.
    What is illegal is rejected. -/
def pull (b : TokenBuffer) : Except Failure Token × TokenBuffer :=
  match b.scanner.next? with
  | none => (.ok (.atEnd b.stop), { b with answers := b.answers ++ [none] })
  | some (t, s) =>
    if t.kind = .illegal then
      (.error (.lexical t.text t.span), { b.answered t s with rejected := some t })
    else (.ok t, b.answered t s)

theorem pull_of_legal {b : TokenBuffer} {t : Token} {s : Scanner}
    (h : b.scanner.next? = some (t, s)) (ht : t.kind ≠ .illegal) :
    b.pull = (.ok t, b.answered t s) := by
  simp only [pull, h, if_neg ht]

theorem pull_of_illegal {b : TokenBuffer} {t : Token} {s : Scanner}
    (h : b.scanner.next? = some (t, s)) (ht : t.kind = .illegal) :
    b.pull = (.error (.lexical t.text t.span), { b.answered t s with rejected := some t }) := by
  simp only [pull, h, if_pos ht]

end TokenBuffer

namespace Routine

/-- A point of a run: what is still to be done, and the buffer. -/
structure Point (α : Type) where
  routine : Routine α
  buffer : TokenBuffer

namespace Point

variable {α β : Type} {x y : Point α} {b : TokenBuffer} {s : Scanner} {t : Token} {offset : Nat}

/-- The next point of a run, unless it has come to its end. -/
def step : Point α → Option (Point α)
  | ⟨.look offset next, b⟩ =>
    if offset < maxLookahead then
      if b.ahead.length ≤ offset then
        match b.pull with
        | (.ok t, b) => some ⟨.look offset next, { b with ahead := b.ahead ++ [t] }⟩
        | (.error failure, b) => some ⟨.fail failure, b⟩
      else
        match b.ahead[offset]? with
        | some t => some ⟨next t.kind, b⟩
        | none => some ⟨.crash, b⟩
    else some ⟨.crash, b⟩
  | ⟨.take next, b⟩ =>
    match b.ahead with
    | t :: rest => some ⟨next t, { b with taken := b.taken ++ [t], ahead := rest }⟩
    | [] =>
      match b.pull with
      | (.ok t, b) => some ⟨next t, { b with taken := b.taken ++ [t] }⟩
      | (.error failure, b) => some ⟨.fail failure, b⟩
  | _ => none

/-- The points that a run comes to. -/
inductive Reachable (start : Point α) : Point α → Prop
  | start : Reachable start start
  | step {x y : Point α} : Reachable start x → x.step = some y → Reachable start y

/-! ## Advances -/

/-- The steps at which nothing is wrong with the buffer. -/
inductive Advance : Point α → Point α → Prop
  /-- One more token is looked at. -/
  | fetch {offset : Nat} {next : TokenKind → Routine α} {b : TokenBuffer} {t : Token}
    {s : Scanner} : offset < maxLookahead → b.ahead.length ≤ offset →
    b.scanner.next? = some (t, s) → t.kind ≠ .illegal →
    Advance ⟨.look offset next, b⟩
      ⟨.look offset next, { b.answered t s with ahead := b.ahead ++ [t] }⟩
  /-- The token to be looked at is illegal. -/
  | rejectAhead {offset : Nat} {next : TokenKind → Routine α} {b : TokenBuffer} {t : Token}
    {s : Scanner} : offset < maxLookahead → b.ahead.length ≤ offset →
    b.scanner.next? = some (t, s) → t.kind = .illegal →
    Advance ⟨.look offset next, b⟩
      ⟨.fail (.lexical t.text t.span), { b.answered t s with rejected := some t }⟩
  /-- The token to be looked at is in the buffer. -/
  | seen {offset : Nat} {next : TokenKind → Routine α} {b : TokenBuffer} {t : Token} :
    offset < maxLookahead → b.ahead[offset]? = some t →
    Advance ⟨.look offset next, b⟩ ⟨next t.kind, b⟩
  /-- A token is taken from the buffer. -/
  | takeSeen {next : Token → Routine α} {b : TokenBuffer} {t : Token} {rest : List Token} :
    b.ahead = t :: rest →
    Advance ⟨.take next, b⟩ ⟨next t, { b with taken := b.taken ++ [t], ahead := rest }⟩
  /-- A token is taken that has not been looked at. -/
  | takeNew {next : Token → Routine α} {b : TokenBuffer} {t : Token} {s : Scanner} :
    b.ahead = [] → b.scanner.next? = some (t, s) → t.kind ≠ .illegal →
    Advance ⟨.take next, b⟩ ⟨next t, { b.answered t s with taken := b.taken ++ [t] }⟩
  /-- The token to be taken is illegal. -/
  | rejectNew {next : Token → Routine α} {b : TokenBuffer} {t : Token} {s : Scanner} :
    b.ahead = [] → b.scanner.next? = some (t, s) → t.kind = .illegal →
    Advance ⟨.take next, b⟩
      ⟨.fail (.lexical t.text t.span), { b.answered t s with rejected := some t }⟩

theorem Advance.step_eq (h : Advance x y) : x.step = some y := by
  cases h with
  | fetch ho hlen hnext ht =>
    simp only [step, if_pos ho, if_pos hlen, TokenBuffer.pull_of_legal hnext ht]
    rfl
  | rejectAhead ho hlen hnext ht =>
    simp only [step, if_pos ho, if_pos hlen, TokenBuffer.pull_of_illegal hnext ht]
  | seen ho hseen =>
    have present := (List.getElem?_eq_some_iff.1 hseen).1
    simp only [step, if_pos ho, if_neg (Nat.not_le.2 present), hseen]
  | takeSeen hahead => simp only [step, hahead]
  | takeNew hahead hnext ht =>
    simp only [step, hahead, TokenBuffer.pull_of_legal hnext ht]
    rfl
  | rejectNew hahead hnext ht => simp only [step, hahead, TokenBuffer.pull_of_illegal hnext ht]

/-- A routine advances if another one comes after it. -/
theorem Advance.bind (h : Advance x y) (f : α → Routine β) :
    Advance ⟨x.routine >>= f, x.buffer⟩ ⟨y.routine >>= f, y.buffer⟩ := by
  cases h with
  | fetch ho hlen hnext ht => exact .fetch ho hlen hnext ht
  | rejectAhead ho hlen hnext ht => exact .rejectAhead ho hlen hnext ht
  | seen ho hseen => exact .seen ho hseen
  | takeSeen hahead => exact .takeSeen hahead
  | takeNew hahead hnext ht => exact .takeNew hahead hnext ht
  | rejectNew hahead hnext ht => exact .rejectNew hahead hnext ht

/-! ### What an advance keeps -/

/-- Nothing has been wrong with the buffer so far, and the tokens make up a list. -/
structure Sound (ts : List Token) (x : Point α) : Prop where
  /-- No token has been lost, and none is out of its place. -/
  order : x.buffer.fetched ++ x.buffer.scanner.tokens = ts
  /-- Whenever the scanner was asked, it had a token. -/
  answers : x.buffer.answers = x.buffer.fetched.map some
  length_le : x.buffer.ahead.length ≤ maxLookahead
  /-- An illegal token is reported. -/
  reported : ∀ t ∈ x.buffer.rejected, t.kind = .illegal ∧
    x.routine = .fail (.lexical t.text t.span)

theorem sound_start (routine : Routine α) (source : String) :
    Sound (tokenize source) ⟨routine, .ofString source⟩ where
  order := rfl
  answers := rfl
  length_le := Nat.zero_le _
  reported := nofun

section Sound

variable {ts : List Token} {routine : Routine α} {b' : TokenBuffer}

/-- One more token has come from the scanner. -/
theorem Sound.fetch (h : Sound ts x) (hnext : x.buffer.scanner.next? = some (t, s))
    (hfetched : b'.fetched = x.buffer.fetched ++ [t]) (hscanner : b'.scanner = s)
    (hanswers : b'.answers = x.buffer.answers ++ [some t])
    (hlength : b'.ahead.length ≤ maxLookahead)
    (hreported : ∀ t ∈ b'.rejected, t.kind = .illegal ∧ routine = .fail (.lexical t.text t.span)) :
    Sound ts ⟨routine, b'⟩ where
  order := by
    rw [hfetched, hscanner, List.append_assoc, List.singleton_append,
      ← Scanner.tokens_of_next?_eq_some hnext, h.order]
  answers := by rw [hanswers, hfetched, h.answers, List.map_append, List.map_singleton]
  length_le := hlength
  reported := hreported

/-- An advance keeps the order of the tokens, whatever the routine is. -/
theorem Sound.advance (h : Sound ts x) (hxy : Advance x y) : Sound ts y := by
  -- nothing has been rejected, since the routine has not failed
  have none_rejected : x.buffer.rejected = none := by
    refine Option.eq_none_iff_forall_not_mem.2 fun t ht => ?_
    have failed := (h.reported t ht).2
    cases hxy <;> cases failed
  obtain ⟨p, taken, ahead, rejected, scanner, stop, answers⟩ := x
  cases none_rejected
  cases hxy with
  | fetch ho hlen hnext ht =>
    refine h.fetch hnext ?_ rfl rfl ?_ nofun
    · simp [TokenBuffer.fetched, TokenBuffer.answered]
    · rw [List.length_append, List.length_singleton]
      exact Nat.succ_le_of_lt (Nat.lt_of_le_of_lt hlen ho)
  | rejectAhead ho hlen hnext ht =>
    refine h.fetch hnext ?_ rfl rfl h.length_le ?_
    · simp [TokenBuffer.fetched, TokenBuffer.answered]
    · rintro u ⟨⟩
      exact ⟨ht, rfl⟩
  | seen ho hseen => exact ⟨h.order, h.answers, h.length_le, nofun⟩
  | takeSeen hahead =>
    cases hahead
    refine ⟨?_, ?_, (Nat.le_succ _).trans h.length_le, nofun⟩
    · simpa [TokenBuffer.fetched] using h.order
    · simpa [TokenBuffer.fetched] using h.answers
  | takeNew hahead hnext ht =>
    cases hahead
    refine h.fetch hnext ?_ rfl rfl (Nat.zero_le _) nofun
    simp [TokenBuffer.fetched, TokenBuffer.answered]
  | rejectNew hahead hnext ht =>
    cases hahead
    refine h.fetch hnext ?_ rfl rfl (Nat.zero_le _) ?_
    · simp [TokenBuffer.fetched, TokenBuffer.answered]
    · rintro u ⟨⟩
      exact ⟨ht, rfl⟩

end Sound

/-! ## Proceeding -/

variable {Q : α → TokenBuffer → Prop} {R : β → TokenBuffer → Prop}

/-- Nothing is wrong with the buffer on the way to an end. If the routine returns, then it does so
    with a condition on what it returns, and if it fails, then at the token that came last from the
    scanner. -/
inductive Proceeds (Q : α → TokenBuffer → Prop) : Point α → Prop
  | done {a : α} {b : TokenBuffer} : Q a b → Proceeds Q ⟨.done a, b⟩
  | fail {failure : Failure} {b : TokenBuffer} {t : Token} : failure.At t →
    b.fetched.getLast? = some t → Proceeds Q ⟨.fail failure, b⟩
  | unfinished {b : TokenBuffer} : Proceeds Q ⟨.unfinished, b⟩
  | advance {x y : Point α} : x.Advance y → Proceeds Q y → Proceeds Q x

theorem Proceeds.bind {f : α → Routine β} (h : Proceeds Q x)
    (hf : ∀ a b, Q a b → Proceeds R ⟨f a, b⟩) : Proceeds R ⟨x.routine >>= f, x.buffer⟩ := by
  induction h with
  | done ha => exact hf _ _ ha
  | fail ht hlast => exact .fail ht hlast
  | unfinished => exact .unfinished
  | advance hxy _ ih => exact .advance (hxy.bind f) ih

/-- What proceeds makes no step but an advance. -/
theorem Proceeds.of_step (h : Proceeds Q x) (hxy : x.step = some y) :
    x.Advance y ∧ Proceeds Q y := by
  cases h with
  | done _ | fail _ _ | unfinished => cases hxy
  | advance hadvance hy =>
    obtain rfl := Option.some.inj (hadvance.step_eq.symm.trans hxy)
    exact ⟨hadvance, hy⟩

/-- What all advances of a run keep holds at all its points. -/
theorem Proceeds.of_reachable {P : Point α → Prop} (h : Proceeds Q x) (hx : P x)
    (hP : ∀ y z, y.Advance z → P y → P z) (hy : Reachable x y) : P y ∧ Proceeds Q y := by
  induction hy with
  | start => exact ⟨hx, h⟩
  | step _ hstep ih =>
    obtain ⟨hadvance, hz⟩ := ih.2.of_step hstep
    exact ⟨hP _ _ hadvance ih.1, hz⟩

/-- A run that proceeds comes to an end. -/
theorem Proceeds.exists_reachable {start : Point α} (h : Proceeds Q x) (hx : Reachable start x) :
    ∃ y, Reachable start y ∧ y.step = none := by
  induction h with
  | done _ | fail _ _ | unfinished => exact ⟨_, hx, rfl⟩
  | advance hxy _ ih => exact ih (hx.step hxy.step_eq)

theorem Proceeds.routine_ne_crash (h : Proceeds Q x) : x.routine ≠ .crash := by
  cases h with
  | done _ | fail _ _ | unfinished => exact nofun
  | advance hxy _ => cases hxy <;> exact nofun

/-- What proceeds looks no further ahead than the buffer is meant to reach. -/
theorem Proceeds.offset_lt {next : TokenKind → Routine α} (h : Proceeds Q x)
    (hlook : x.routine = .look offset next) : offset < maxLookahead := by
  cases h with
  | done _ | fail _ _ | unfinished => cases hlook
  | advance hxy _ =>
    cases hxy with
    | fetch ho _ _ _ | rejectAhead ho _ _ _ | seen ho _ =>
      cases hlook
      exact ho
    | takeSeen _ | takeNew _ _ _ | rejectNew _ _ _ => cases hlook

end Point

end Routine

end Bitwise
