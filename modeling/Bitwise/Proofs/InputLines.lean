import Bitwise.Session.Input

/-!
# Texts as input

An input is cut into lines before it is decoded. A text that is given as input is cut at its line
feeds nevertheless, and its lines are decoded to what they are: the byte of a line feed belongs to
no other character (`Session.eq_lineFeed_of_mem`). So lines can be given to a session one after the
other, whatever comes behind them (`Session.inputLines_encode_append`).
-/

namespace Bitwise.Session

/-- The bytes of a text in UTF-8. -/
def encode (cs : List Char) : List UInt8 :=
  cs.flatMap String.utf8EncodeChar

/-- The line of an input that has some characters and ends there. -/
def inputLine (cs : List Char) : List Char :=
  cs ++ ['\n']

theorem encode_append (cs ds : List Char) : encode (cs ++ ds) = encode cs ++ encode ds :=
  List.flatMap_append

/-- A text is what its bytes encode. -/
theorem decode_encode (cs : List Char) : decode (encode cs) = some (String.ofList cs) := by
  have bytes : (⟨(encode cs).toArray⟩ : ByteArray) = (String.ofList cs).toByteArray := by
    rw [String.toByteArray_ofList, List.utf8Encode]
    exact ByteArray.ext List.data_toByteArray.symm
  rw [decode, bytes, String.fromUTF8?, dif_pos (String.ofList cs).isValidUTF8]
  rfl

theorem mod_eq_of_ofNat_eq {n : Nat} (h : 10 = UInt8.ofNat n) : n % 256 = 10 := by
  have value := congrArg UInt8.toNat h
  rw [UInt8.toNat_ofNat'] at value
  exact value.symm

/-- No other character has a byte that is a line feed. -/
theorem eq_lineFeed_of_mem {c : Char} (h : 10 ∈ String.utf8EncodeChar c) : c = '\n' := by
  rw [String.utf8EncodeChar.eq_def] at h
  dsimp only at h
  split at h
  · next hc =>
    have value := mod_eq_of_ofNat_eq (List.mem_singleton.1 h)
    refine Char.toNat_inj.1 ?_
    show c.val.toNat = 10
    omega
  · -- all bytes of the other characters are too large
    have large : ∀ n, 128 ≤ n → n < 256 → 10 ≠ UInt8.ofNat n := by
      intro n hle hlt h10
      have value := mod_eq_of_ofNat_eq h10
      omega
    exfalso
    split at h
    · simp only [List.mem_cons, List.not_mem_nil, or_false] at h
      rcases h with h | h <;> exact large _ (by omega) (by omega) h
    split at h
    · simp only [List.mem_cons, List.not_mem_nil, or_false] at h
      rcases h with h | h | h <;> exact large _ (by omega) (by omega) h
    · simp only [List.mem_cons, List.not_mem_nil, or_false] at h
      rcases h with h | h | h | h <;> exact large _ (by omega) (by omega) h

theorem splitAfterLineFeeds_append {bs : List UInt8} (h : 10 ∉ bs) (rest : List UInt8) :
    splitAfterLineFeeds (bs ++ 10 :: rest) = (bs ++ [10]) :: splitAfterLineFeeds rest := by
  induction bs with
  | nil => rw [List.nil_append, splitAfterLineFeeds, if_pos rfl, List.nil_append]
  | cons b bs ih =>
    rw [List.mem_cons, not_or] at h
    rw [List.cons_append, splitAfterLineFeeds, if_neg (Ne.symm h.1), ih h.2]
    rfl

/-- A line comes first, and then the lines of what follows it. -/
theorem inputLines_encode_append {cs : List Char} (h : '\n' ∉ cs) (rest : List UInt8) :
    inputLines (encode (inputLine cs) ++ rest) =
      some (String.ofList (inputLine cs)) :: inputLines rest := by
  have clean : 10 ∉ encode cs := by
    intro h10
    obtain ⟨c, hc, hb⟩ := List.mem_flatMap.1 h10
    exact h (eq_lineFeed_of_mem hb ▸ hc)
  have lineFeed : encode (inputLine cs) = encode cs ++ [10] := encode_append cs ['\n']
  rw [inputLines, lineFeed, List.append_assoc, List.singleton_append,
    splitAfterLineFeeds_append clean, List.map_cons, ← lineFeed, decode_encode, inputLines]

/-- Lines come one after the other. -/
theorem inputLines_encode_flatten_append {lines : List (List Char)}
    (h : ∀ line ∈ lines, '\n' ∉ line) (rest : List UInt8) :
    inputLines (encode (lines.map inputLine).flatten ++ rest) =
      lines.map (fun line => some (String.ofList (inputLine line))) ++ inputLines rest := by
  induction lines with
  | nil => rfl
  | cons line lines ih =>
    obtain ⟨hline, hlines⟩ := List.forall_mem_cons.1 h
    rw [List.map_cons, List.flatten_cons, encode_append, List.append_assoc,
      inputLines_encode_append hline, ih hlines, List.map_cons, List.cons_append]

end Bitwise.Session
