import Bitwise.Proofs.Prefix
import Bitwise.Session.Balance

/-!
# Balanced lines and parsed lines

Whether a line is handed over is decided by counting its parentheses, character by character
(`Balance.ofLine`). Its parser reads tokens and keeps a stack of groups. The two never disagree
(`balance_agrees_with_parsing`): a line that can be parsed is balanced, one that ends in an open
group is incomplete, and a parenthesis that closes nothing is found at the same place by both.
Whatever is added to a line with such a parenthesis, it can never be parsed.

The count of a text is put in terms of how many parentheses there are of either kind in each of its
beginnings (`Balance.Verdict`). These numbers are the same for the tokens that a parser has read,
since a parenthesis in a legal text is a token of its own, and each open group is one parenthesis.
-/

namespace Bitwise

open Text (byteLength)
open Unicode (isBlank)

/-! ## Counting characters -/

/-- At no point of a text are more parentheses closed than there are to close, with those that are
    open before it. -/
def Text.ClosedWithin (opened : Nat) (cs : List Char) : Prop :=
  ∀ read, read <+: cs → read.count ')' ≤ read.count '(' + opened

namespace Text

variable {opened : Nat} {cs ds : List Char} {c : Char}

theorem ClosedWithin.of_isPrefix (h : ClosedWithin opened cs) (hds : ds <+: cs) :
    ClosedWithin opened ds :=
  fun read hread => h read (hread.trans hds)

/-- One character can be taken off a text, if what it closes is open. -/
theorem ClosedWithin.of_cons (h : ClosedWithin opened (c :: cs)) :
    ∃ left, left + [c].count ')' = opened + [c].count '(' ∧ ClosedWithin left cs := by
  have first : [c].count ')' ≤ [c].count '(' + opened := h [c] (List.prefix_append [c] cs)
  refine ⟨opened + [c].count '(' - [c].count ')', by omega, fun read hread => ?_⟩
  have := h ([c] ++ read) ((List.prefix_append_right_inj [c]).2 hread)
  rw [List.count_append, List.count_append] at this
  omega

/-- Every text closes no more than there is to close, up to the first parenthesis that does. -/
theorem closedWithin_or_exists (opened : Nat) (cs : List Char) : ClosedWithin opened cs ∨
    ∃ before after, cs = before ++ ')' :: after ∧ ClosedWithin opened before ∧
      before.count ')' = before.count '(' + opened := by
  -- characters are added at the end, so that the first of the parentheses stays the first
  induction cs using List.reverseRecOn with
  | nil => exact .inl fun read hread => by rw [List.prefix_nil.1 hread]; exact Nat.zero_le _
  | append_singleton cs c ih =>
    rcases ih with ih | ⟨before, after, rfl, hbefore, hcount⟩
    · have within := ih cs List.prefix_rfl
      by_cases hc : (cs ++ [c]).count ')' ≤ (cs ++ [c]).count '(' + opened
      · refine .inl fun read hread => ?_
        rcases List.prefix_concat_iff.1 hread with rfl | hread
        · exact hc
        · exact ih read hread
      · have closes : c = ')' := by
          by_contra hne
          rw [List.count_append, List.count_append, List.count_singleton, beq_false_of_ne hne] at hc
          simp only [Bool.false_eq_true, if_false] at hc
          omega
        subst closes
        have one : [')'].count ')' = 1 := rfl
        rw [List.count_append, List.count_append, one] at hc
        exact .inr ⟨cs, [], rfl, ih, by omega⟩
    · exact .inr ⟨before, after ++ [c], by simp, hbefore, hcount⟩

/-- Texts with the same parentheses close alike. -/
theorem closedWithin_congr (h : cs.filter isParen = ds.filter isParen) :
    ClosedWithin opened cs ↔ ClosedWithin opened ds := by
  have only : ∀ es, ClosedWithin opened (es.filter isParen) ↔ ClosedWithin opened es := fun _ =>
    forall_prefix_filter (p := fun o c => c ≤ o + opened)
  rw [← only, h, only]

/-- Texts with the same parentheses have as many of either kind. -/
theorem count_congr (h : cs.filter isParen = ds.filter isParen) :
    cs.count '(' = ds.count '(' ∧ cs.count ')' = ds.count ')' := by
  rw [← (count_filter_isParen cs).1, ← (count_filter_isParen cs).2, h,
    (count_filter_isParen ds).1, (count_filter_isParen ds).2]
  exact ⟨rfl, rfl⟩

end Text

namespace Session.Balance

variable {opened left offset : Nat} {cs ds gap : List Char} {b : Balance}

theorem ofChars_cons {c : Char} (h : left + [c].count ')' = opened + [c].count '(')
    (cs : List Char) :
    ofChars opened offset (c :: cs) = ofChars left (offset + c.utf8Size) cs := by
  rw [List.count_singleton, List.count_singleton] at h
  rw [ofChars.eq_def]
  dsimp only
  by_cases ho : c = '('
  · subst ho
    obtain rfl : left = opened + 1 := h
    rw [if_pos rfl]
  · rw [if_neg ho]
    by_cases hc : c = ')'
    · subst hc
      obtain rfl : left + 1 = opened := h
      rw [if_pos rfl]
    · rw [beq_false_of_ne ho, beq_false_of_ne hc] at h
      obtain rfl : left = opened := h
      rw [if_neg hc]

/-- A text that closes no more than there is to close is counted, and then what follows it. -/
theorem ofChars_append (h : Text.ClosedWithin opened cs)
    (hleft : left + cs.count ')' = opened + cs.count '(') (ds : List Char) :
    ofChars opened offset (cs ++ ds) = ofChars left (offset + byteLength cs) ds := by
  induction cs generalizing opened offset with
  | nil =>
    obtain rfl : left = opened := hleft
    rfl
  | cons c cs ih =>
    obtain ⟨between, hbetween, htail⟩ := h.of_cons
    have parts : ∀ d : Char, ([c] ++ cs).count d = [c].count d + cs.count d := fun _ =>
      List.count_append
    rw [← List.singleton_append, parts, parts] at hleft
    rw [List.cons_append, ofChars_cons hbetween, ih htail (by omega), Text.byteLength_cons,
      Nat.add_assoc]

/-- What the parentheses of a text come to, in terms of how many there are in its beginnings. -/
inductive Verdict : List Char → Balance → Prop
  | balanced {cs : List Char} : Text.ClosedWithin 0 cs → Text.Balanced cs → Verdict cs .balanced
  | incomplete {cs : List Char} : Text.ClosedWithin 0 cs → cs.count ')' < cs.count '(' →
    Verdict cs .incomplete
  | unmatched {before after : List Char} : Text.ClosedWithin 0 before → Text.Balanced before →
    Verdict (before ++ ')' :: after) (.unmatched (byteLength before))

theorem Verdict.ofLine_eq (h : Verdict cs b) : ofLine cs = b := by
  cases h with
  | balanced hclosed hcount =>
    have counted : ofChars 0 0 (cs ++ []) = ofChars 0 (0 + byteLength cs) [] :=
      ofChars_append hclosed (congrArg _ hcount.symm) []
    rwa [List.append_nil] at counted
  | incomplete hclosed hcount =>
    have counted : ofChars 0 0 (cs ++ []) =
        ofChars (cs.count '(' - cs.count ')') (0 + byteLength cs) [] :=
      ofChars_append hclosed (by omega) []
    rw [List.append_nil, ofChars, if_neg (by omega)] at counted
    exact counted
  | @unmatched before after hclosed hcount =>
    have counted : ofChars 0 0 (before ++ ')' :: after) =
        ofChars 0 (0 + byteLength before) (')' :: after) :=
      ofChars_append hclosed (congrArg _ hcount.symm) _
    rw [ofLine, counted, Nat.zero_add]
    rfl

theorem exists_verdict (cs : List Char) : ∃ b, Verdict cs b := by
  rcases Text.closedWithin_or_exists 0 cs with h | ⟨before, after, rfl, hclosed, hcount⟩
  · by_cases hcount : Text.Balanced cs
    · exact ⟨_, .balanced h hcount⟩
    · have within := h cs List.prefix_rfl
      exact ⟨_, .incomplete h (by rw [Text.Balanced] at hcount; omega)⟩
  · exact ⟨_, .unmatched hclosed hcount.symm⟩

/-- The count of a line says what its parentheses come to. -/
theorem ofLine_eq_iff : ofLine cs = b ↔ Verdict cs b := by
  refine ⟨fun h => ?_, Verdict.ofLine_eq⟩
  obtain ⟨b', h'⟩ := exists_verdict cs
  rw [← h, h'.ofLine_eq]
  exact h'

/-- A parenthesis that closes nothing is one more than there are to close. -/
theorem Verdict.not_closedWithin (h : Verdict cs (.unmatched offset)) :
    ¬Text.ClosedWithin 0 cs := by
  cases h with
  | @unmatched before after _ hcount =>
    intro hclosed
    have within := hclosed (before ++ [')']) ⟨after, by simp⟩
    have one : [')'].count ')' = 1 ∧ [')'].count '(' = 0 := ⟨rfl, rfl⟩
    rw [List.count_append, List.count_append, one.1, one.2] at within
    rw [Text.Balanced] at hcount
    omega

/-- Whether a text is balanced or incomplete can be told from its parentheses alone. -/
theorem Verdict.congr (h : Verdict cs b) (hparens : cs.filter isParen = ds.filter isParen)
    (hb : ∀ offset, b ≠ .unmatched offset) : Verdict ds b := by
  obtain ⟨hopened, hclosed⟩ := Text.count_congr hparens
  cases h with
  | balanced hwithin hcount =>
    refine .balanced ((Text.closedWithin_congr hparens).1 hwithin) ?_
    rwa [Text.Balanced, ← hopened, ← hclosed]
  | incomplete hwithin hcount =>
    refine .incomplete ((Text.closedWithin_congr hparens).1 hwithin) ?_
    rwa [← hopened, ← hclosed]
  | unmatched => exact absurd rfl (hb _)

/-- Whatever is added to a text, the same parenthesis closes nothing. -/
theorem Verdict.append_of_unmatched (h : Verdict cs (.unmatched offset)) (ds : List Char) :
    Verdict (cs ++ ds) (.unmatched offset) := by
  cases h with
  | unmatched hclosed hcount =>
    rw [List.append_assoc, List.cons_append]
    exact .unmatched hclosed hcount

/-- What is no parenthesis can be added to a text. -/
theorem Verdict.append (h : Verdict cs b) (hgap : gap.filter isParen = []) :
    Verdict (cs ++ gap) b := by
  have parens : cs.filter isParen = (cs ++ gap).filter isParen := by
    rw [List.filter_append, hgap, List.append_nil]
  cases b with
  | unmatched offset => exact h.append_of_unmatched gap
  | balanced => exact h.congr parens fun _ => Balance.noConfusion
  | incomplete => exact h.congr parens fun _ => Balance.noConfusion

theorem ofLine_append (cs : List Char) (hgap : gap.filter isParen = []) :
    ofLine (cs ++ gap) = ofLine cs :=
  ((ofLine_eq_iff.1 rfl : Verdict cs _).append hgap).ofLine_eq

end Session.Balance

/-! ## Counting tokens -/

/-- The error at a token tells the token, and what was expected in its place. -/
theorem ParseError.of_unexpected_eq {expected expected' : Expected} {t u : Token}
    (h : unexpected expected t = .unexpectedToken expected' u) : expected = expected' ∧ t = u := by
  rw [unexpected] at h
  split at h
  · cases h
  · cases h
    exact ⟨rfl, rfl⟩

namespace Parser

variable {p : Parser} {t u : Token} {ts : List Token}

/-- What has been read closes no more than it opens, at any point. -/
theorem closed_le_opened_of_feedAll (h : initial.feedAll ts = .ok p) :
    ∀ read, read <+: ts → closed read ≤ opened read := by
  rintro read ⟨rest, rfl⟩
  obtain ⟨q, hq, -⟩ := exists_feedAll_of_append h
  have counts := (nested_of_feedAll hq).2.1
  omega

/-- Only a literal that is too large makes a number a fault. -/
theorem literal_map_ne_unexpectedToken {α : Type} {f : Node → α} {expected : Expected} :
    t.literal.map f ≠ .error (.unexpectedToken expected u) := by
  rw [Token.literal]
  split <;> rintro ⟨⟩

/-- A parenthesis that cannot stand where an operator is expected closes nothing. -/
theorem groups_eq_nil_of_feed (h : p.feed t = .error (.unexpectedToken .operation u))
    (hu : u.kind = .closeParen) : t = u ∧ p.groups = [] := by
  rcases feed_cases p t with ⟨q, step⟩ | ⟨pending, -, -, hfeed⟩ | ⟨pending, tilde, -, hfeed⟩ |
    ⟨target, tree, -, hfeed⟩
  · rw [step.feed_eq] at h
    cases h
  · rw [hfeed, feedOperand.eq_def] at h
    split at h
    · rw [openGroup] at h
      split at h <;> cases h
    · cases h
    · cases h
    · exact absurd h literal_map_ne_unexpectedToken
    · exact absurd (ParseError.of_unexpected_eq (Except.error.inj h)).1 Expected.noConfusion
  · rw [hfeed, feedNumber.eq_def] at h
    split at h
    · exact absurd h literal_map_ne_unexpectedToken
    · exact absurd (ParseError.of_unexpected_eq (Except.error.inj h)).1 Expected.noConfusion
  · -- after a chain the parenthesis would close a group, if there were one
    rw [hfeed, feedChain.eq_def] at h
    split at h
    · cases h
    · cases h
    · next hnone =>
      obtain rfl := (ParseError.of_unexpected_eq (Except.error.inj h)).2
      refine ⟨rfl, ?_⟩
      cases hgroups : p.groups with
      | nil => rfl
      | cons group groups => exact absurd hgroups (hnone group groups hu)

theorem groups_ne_nil_of_finish (h : p.finish = .error (.unexpectedEnd .closeParen)) :
    p.groups ≠ [] := by
  obtain ⟨groups, progress⟩ := p
  rintro rfl
  cases progress <;> cases h

end Parser

section

variable {source : String} {text rest gap : List Char} {ts : List Token} {p : Parser}

/-- The characters of what has been read close no more than they open, and the groups that are open
    are the parentheses that are. -/
theorem closedWithin_of_feedAll (h : Spelling rest 0 text ts) (hgap : ∀ c ∈ gap, isBlank c = true)
    (hfeed : Parser.initial.feedAll ts = .ok p) :
    Text.ClosedWithin 0 (text ++ gap) ∧
      (text ++ gap).count '(' = (text ++ gap).count ')' + p.groups.length := by
  have parens := h.filter_isParen_append hgap
  constructor
  · exact (forall_prefix_iff_of_filter (p := fun o c => c ≤ o + 0) parens).2
      (Parser.closed_le_opened_of_feedAll hfeed)
  · rw [← (count_filter_isParen (text ++ gap)).1, ← (count_filter_isParen (text ++ gap)).2, parens,
      (count_filterMap_paren? ts).1, (count_filterMap_paren? ts).2]
    exact (Parser.nested_of_feedAll hfeed).2.1

/-- A text that can be parsed is balanced. -/
theorem closedWithin_of_parse {node : Node} (h : parse source = .ok node) :
    Text.ClosedWithin 0 source.toList ∧ Text.Balanced source.toList := by
  obtain ⟨s, text, gap, hsource, hgap, hspell, hs, -⟩ := parse_eq_ok_iff_spelling.1 h
  obtain ⟨q, hq, hfinish⟩ := hs.exists_feedAll
  obtain ⟨hclosed, hcount⟩ := closedWithin_of_feedAll hspell hgap hq
  rw [(Parser.finish_eq_ok_iff.1 hfinish).1] at hcount
  rw [hsource]
  exact ⟨hclosed, hcount⟩

/-- A text that ends where a group has to be closed is incomplete. -/
theorem verdict_of_unexpectedEnd (h : parse source = .error (.unexpectedEnd .closeParen)) :
    Session.Balance.Verdict source.toList .incomplete := by
  rcases exists_scans_of_error h with ⟨_, _, _, _, _, _, _, -, -, -, -, -, -, hfeed⟩ |
    ⟨text, gap, ts, p, hsource, hspell, hgap, hp, hfinish⟩
  · cases Parser.span?_of_feed_eq_error hfeed
  · obtain ⟨hclosed, hcount⟩ := closedWithin_of_feedAll hspell hgap hp
    have some_open := List.length_pos_of_ne_nil (Parser.groups_ne_nil_of_finish hfinish)
    rw [hsource]
    exact .incomplete hclosed (by omega)

/-- A parenthesis that cannot stand where an operator is expected is unmatched. -/
theorem verdict_of_unexpectedToken {t : Token}
    (h : parse source = .error (.unexpectedToken .operation t)) (ht : t.kind = .closeParen) :
    Session.Balance.Verdict source.toList (.unmatched t.span.start) := by
  rcases exists_scans_of_error h with
    ⟨text, gap, piece, after, ts, t', p, hsource, hspell, hgap, -, hs, hp, hfeed⟩ |
    ⟨text, gap, ts, p, -, -, -, -, hfinish⟩
  · obtain ⟨rfl, hgroups⟩ := Parser.groups_eq_nil_of_feed hfeed ht
    obtain ⟨hclosed, hcount⟩ := closedWithin_of_feedAll hspell hgap hp
    rw [hgroups] at hcount
    obtain ⟨hl, -, -⟩ := hs.of_isLast_eq_false (by rw [ht]; rfl)
    rw [ht] at hl
    obtain rfl : piece = [')'] := String.ofList_injective
      (hl.ofList_eq_signText TokenKind.noConfusion TokenKind.noConfusion)
    rw [hs.span_eq, hsource, ← List.append_assoc, Nat.zero_add, ← Text.byteLength_append]
    exact .unmatched hclosed hcount
  · cases Parser.span?_of_finish_eq_error hfinish

end

/-- The count of the parentheses of a text never disagrees with the parser. -/
structure BalanceAgrees (source : String) : Prop where
  /-- A text that can be parsed is balanced. -/
  balanced : ∀ node, parse source = .ok node →
    Session.Balance.ofLine source.toList = .balanced
  /-- A text that ends where a group has to be closed is incomplete. -/
  incomplete : parse source = .error (.unexpectedEnd .closeParen) →
    Session.Balance.ofLine source.toList = .incomplete
  /-- A closing parenthesis where an operator is expected closes nothing, and the count finds the
      same one. -/
  unmatched : ∀ t, parse source = .error (.unexpectedToken .operation t) → t.kind = .closeParen →
    Session.Balance.ofLine source.toList = .unmatched t.span.start
  /-- With a parenthesis that closes nothing, a text cannot be parsed, whatever is added to it. -/
  hopeless : ∀ offset, Session.Balance.ofLine source.toList = .unmatched offset →
    ∀ u : String, ∃ e, parse (source ++ u) = .error e

/-- A line is never kept back that can be parsed, and none is refused that could still be
    completed. -/
theorem balance_agrees_with_parsing (source : String) : BalanceAgrees source where
  balanced _ h := (Session.Balance.Verdict.balanced (closedWithin_of_parse h).1
    (closedWithin_of_parse h).2).ofLine_eq
  incomplete h := (verdict_of_unexpectedEnd h).ofLine_eq
  unmatched _ h ht := (verdict_of_unexpectedToken h ht).ofLine_eq
  hopeless offset h u := by
    cases hparse : parse (source ++ u) with
    | error e => exact ⟨e, rfl⟩
    | ok node =>
      -- the longer text would close no more than it opens, and so would its beginning
      obtain ⟨hclosed, -⟩ := closedWithin_of_parse hparse
      rw [String.toList_append] at hclosed
      exact absurd (hclosed.of_isPrefix (List.prefix_append _ _))
        (Session.Balance.ofLine_eq_iff.1 h).not_closedWithin

/-- A line of each kind. The letter takes two bytes. -/
theorem balance_agrees_with_parsing_on_lines :
    Session.Balance.ofLine "((x=1)|2)".toList = .balanced ∧
    Session.Balance.ofLine "é&(b|1".toList = .incomplete ∧
    Session.Balance.ofLine "(é))|(".toList = .unmatched 4 ∧
    ∃ e, parse ("(é))|(" ++ "0)") = .error e := by
  have complete : parse "((x=1)|2)" = .ok (.binary .or (.assign "x" (.literal 1 ⟨4, 5⟩) ⟨1, 6⟩)
      (.literal 2 ⟨7, 8⟩) ⟨0, 9⟩) := by
    decide +kernel
  have unclosed : parse "é&(b|1" = .error (.unexpectedEnd .closeParen) := by
    decide +kernel
  have unopened : parse "(é))|(" =
      .error (.unexpectedToken .operation ⟨.closeParen, ")", ⟨4, 5⟩⟩) := by
    decide +kernel
  have refused := (balance_agrees_with_parsing "(é))|(").unmatched _ unopened rfl
  exact ⟨(balance_agrees_with_parsing "((x=1)|2)").balanced _ complete,
    (balance_agrees_with_parsing "é&(b|1").incomplete unclosed, refused,
    (balance_agrees_with_parsing "(é))|(").hopeless _ refused "0)"⟩

end Bitwise
