import RefereeGrading.Text.Blank
import RefereeGrading.Text.Utf8

/-!
# Reading back written text

The readers of `Text` undo the simple writers built from them: ASCII text survives its UTF-8
bytes, text written as lines each ended by a line feed splits back into those lines, and
words joined by one separator, with separators in front, cut back into those words. The field
and line readers keep the part being read in an accumulator, so each fact is first stated for
any accumulator and then for the empty one.
-/

namespace RefereeGrading.Text

/-! ## ASCII through UTF-8 -/

theorem encodePoint_of_lt {n : Nat} (ascii : n < 0x80) : encodePoint n = [n.toUInt8] := by
  simp [encodePoint, ascii]

theorem decodePoints_ascii (points : List Nat) (ascii : ∀ n ∈ points, n < 0x80) :
    decodePoints (points.map Nat.toUInt8) = some points := by
  induction points with
  | nil =>
      rfl
  | cons n rest inductionHypothesis =>
      have small : n < 0x80 := ascii n List.mem_cons_self
      have byteValue : n.toUInt8.toNat = n :=
        UInt8.toNat_ofNat_of_lt' (by simp only [UInt8.size]; omega)
      have restDecoded := inductionHypothesis fun other member =>
        ascii other (List.mem_cons_of_mem n member)
      simp [decodePoints, continuationCount, byteValue, small, restDecoded]

theorem encode_of_ascii (text : String) (ascii : ∀ c ∈ text.toList, c.toNat < 0x80) :
    encode text = (text.toList.map Char.toNat).map Nat.toUInt8 := by
  unfold encode
  generalize text.toList = chars at ascii ⊢
  induction chars with
  | nil =>
      rfl
  | cons c rest inductionHypothesis =>
      rw [List.flatMap_cons, encodePoint_of_lt (ascii c List.mem_cons_self),
        inductionHypothesis fun other member => ascii other (List.mem_cons_of_mem c member)]
      rfl

theorem decode?_encode_of_ascii (text : String) (ascii : ∀ c ∈ text.toList, c.toNat < 0x80) :
    decode? (encode text) = some text := by
  have points : ∀ n ∈ text.toList.map Char.toNat, n < 0x80 := by
    simpa using ascii
  rw [decode?, encode_of_ascii text ascii, decodePoints_ascii _ points]
  simp [Function.comp_def, Char.ofNat_toNat]

/-! ## Unicode scalar values through UTF-8

Every code point that is no surrogate and at most `U+10FFFF` survives its UTF-8 bytes: the lead
byte announces the sequence length the encoder chose, the continuation bytes carry six bits each,
and the value lies in the range that decoding admits for that length. So every string, being
made of such code points, has a UTF-8 form that decodes back to it. -/

theorem toNat_toUInt8_of_lt {k : Nat} (small : k < 256) : k.toUInt8.toNat = k := by
  simp only [Nat.toUInt8, UInt8.toNat_ofNat']
  omega

theorem decodePoints_encodePoint_one {n : Nat} (ascii : n < 0x80) (rest : List UInt8) :
    decodePoints (encodePoint n ++ rest) = (decodePoints rest).map (n :: ·) := by
  have count : continuationCount n.toUInt8.toNat = some 0 := by
    rw [continuationCount, toNat_toUInt8_of_lt (by omega), if_pos ascii]
  -- the equation of a one-byte sequence asks for its lead byte's count
  rw [encodePoint_of_lt ascii, List.singleton_append, decodePoints]
  · simp only [toNat_toUInt8_of_lt (show n < 256 by omega)]
  · exact count

theorem decodePoints_encodePoint_two {n : Nat} (low : 0x80 ≤ n) (high : n < 0x800)
    (rest : List UInt8) :
    decodePoints (encodePoint n ++ rest) = (decodePoints rest).map (n :: ·) := by
  rw [encodePoint, if_neg (by omega), if_pos high]
  generalize first : (0xC0 + n / 64).toUInt8 = b0
  generalize second : (0x80 + n % 64).toUInt8 = b1
  have v0 : b0.toNat = 0xC0 + n / 64 := first ▸ toNat_toUInt8_of_lt (by omega)
  have v1 : b1.toNat = 0x80 + n % 64 := second ▸ toNat_toUInt8_of_lt (by omega)
  have count : continuationCount b0.toNat = some 1 := by
    rw [continuationCount, v0, if_neg (by omega),
      if_pos (by simp only [Bool.and_eq_true, decide_eq_true_eq]; omega)]
  have continued : isContinuation b1 = true := by
    simp only [isContinuation, v1, decide_eq_true_eq]
    omega
  have sequence : decodeSequence b0.toNat [b1] = some n := by
    simp only [decodeSequence, v0, v1, List.foldl_cons, List.foldl_nil, List.length_singleton]
    rw [if_pos (by omega)]
    congr 1
    omega
  simp only [List.cons_append, List.nil_append, decodePoints, count, withSequence,
    List.all_cons, List.all_nil, continued, Bool.and_true, if_true, sequence]

theorem decodePoints_encodePoint_three {n : Nat} (low : 0x800 ≤ n) (high : n < 0x10000)
    (notSurrogate : isSurrogate n = false) (rest : List UInt8) :
    decodePoints (encodePoint n ++ rest) = (decodePoints rest).map (n :: ·) := by
  rw [encodePoint, if_neg (by omega), if_neg (by omega), if_pos high]
  generalize first : (0xE0 + n / 4096).toUInt8 = b0
  generalize second : (0x80 + n / 64 % 64).toUInt8 = b1
  generalize third : (0x80 + n % 64).toUInt8 = b2
  have v0 : b0.toNat = 0xE0 + n / 4096 := first ▸ toNat_toUInt8_of_lt (by omega)
  have v1 : b1.toNat = 0x80 + n / 64 % 64 := second ▸ toNat_toUInt8_of_lt (by omega)
  have v2 : b2.toNat = 0x80 + n % 64 := third ▸ toNat_toUInt8_of_lt (by omega)
  have count : continuationCount b0.toNat = some 2 := by
    rw [continuationCount, v0, if_neg (by omega),
      if_neg (by simp only [Bool.and_eq_true, decide_eq_true_eq]; omega),
      if_pos (by simp only [Bool.and_eq_true, decide_eq_true_eq]; omega)]
  have continued : ([b1, b2].all isContinuation) = true := by
    simp only [List.all_cons, List.all_nil, isContinuation, v1, v2, Bool.and_true,
      Bool.and_eq_true, decide_eq_true_eq]
    omega
  have value : (0xE0 + n / 4096) % 16 * 4096 +
      ((0 * 64 + (0x80 + n / 64 % 64) % 64) * 64 + (0x80 + n % 64) % 64) = n := by
    omega
  have sequence : decodeSequence b0.toNat [b1, b2] = some n := by
    simp only [decodeSequence, v0, v1, v2, List.foldl_cons, List.foldl_nil, List.length_cons,
      List.length_nil]
    rw [value, notSurrogate]
    simp only [Bool.not_false, Bool.and_true, decide_eq_true_eq]
    rw [if_pos low]
  simp only [List.cons_append, List.nil_append, decodePoints, count, withSequence,
    continued, if_true, sequence]

theorem decodePoints_encodePoint_four {n : Nat} (low : 0x10000 ≤ n) (high : n ≤ 0x10FFFF)
    (rest : List UInt8) :
    decodePoints (encodePoint n ++ rest) = (decodePoints rest).map (n :: ·) := by
  rw [encodePoint, if_neg (by omega), if_neg (by omega), if_neg (by omega)]
  generalize first : (0xF0 + n / 262144).toUInt8 = b0
  generalize second : (0x80 + n / 4096 % 64).toUInt8 = b1
  generalize third : (0x80 + n / 64 % 64).toUInt8 = b2
  generalize fourth : (0x80 + n % 64).toUInt8 = b3
  have v0 : b0.toNat = 0xF0 + n / 262144 := first ▸ toNat_toUInt8_of_lt (by omega)
  have v1 : b1.toNat = 0x80 + n / 4096 % 64 := second ▸ toNat_toUInt8_of_lt (by omega)
  have v2 : b2.toNat = 0x80 + n / 64 % 64 := third ▸ toNat_toUInt8_of_lt (by omega)
  have v3 : b3.toNat = 0x80 + n % 64 := fourth ▸ toNat_toUInt8_of_lt (by omega)
  have count : continuationCount b0.toNat = some 3 := by
    rw [continuationCount, v0, if_neg (by omega),
      if_neg (by simp only [Bool.and_eq_true, decide_eq_true_eq]; omega),
      if_neg (by simp only [Bool.and_eq_true, decide_eq_true_eq]; omega),
      if_pos (by simp only [Bool.and_eq_true, decide_eq_true_eq]; omega)]
  have continued : ([b1, b2, b3].all isContinuation) = true := by
    simp only [List.all_cons, List.all_nil, isContinuation, v1, v2, v3, Bool.and_true,
      Bool.and_eq_true, decide_eq_true_eq]
    omega
  have sequence : decodeSequence b0.toNat [b1, b2, b3] = some n := by
    simp only [decodeSequence, v0, v1, v2, v3, List.foldl_cons, List.foldl_nil, List.length_cons,
      List.length_nil]
    rw [if_pos (by simp only [Bool.and_eq_true, decide_eq_true_eq]; omega)]
    congr 1
    omega
  simp only [List.cons_append, List.nil_append, decodePoints, count, withSequence,
    continued, if_true, sequence]

theorem decodePoints_encodePoint_append {n : Nat} (scalar : n.isValidChar) (rest : List UInt8) :
    decodePoints (encodePoint n ++ rest) = (decodePoints rest).map (n :: ·) := by
  -- one case for each length of sequence the encoder chooses
  by_cases one : n < 0x80
  · exact decodePoints_encodePoint_one one rest
  by_cases two : n < 0x800
  · exact decodePoints_encodePoint_two (by omega) two rest
  by_cases three : n < 0x10000
  · have notSurrogate : isSurrogate n = false := by
      simp only [isSurrogate, Bool.and_eq_false_iff, decide_eq_false_iff_not]
      unfold Nat.isValidChar at scalar
      omega
    exact decodePoints_encodePoint_three (by omega) three notSurrogate rest
  · unfold Nat.isValidChar at scalar
    exact decodePoints_encodePoint_four (by omega) (by omega) rest

theorem decodePoints_flatMap_encodePoint {points : List Nat}
    (scalar : ∀ n ∈ points, n.isValidChar) :
    decodePoints (points.flatMap encodePoint) = some points := by
  induction points with
  | nil =>
      rfl
  | cons n rest inductionHypothesis =>
      rw [List.flatMap_cons, decodePoints_encodePoint_append (scalar n List.mem_cons_self),
        inductionHypothesis fun other member => scalar other (List.mem_cons_of_mem n member)]
      rfl

theorem encodePoints_of_no_surrogate {points : List Nat}
    (clean : ∀ n ∈ points, isSurrogate n = false) :
    encodePoints points = .ok (points.flatMap encodePoint) := by
  have noRun : surrogateRun? points = none := by
    rw [surrogateRun?, List.findIdx?_eq_none_iff.2 clean]
  rw [encodePoints, noRun]

theorem isValidChar_toNat (c : Char) : c.toNat.isValidChar := by
  have valid := c.valid
  unfold UInt32.isValidChar at valid
  exact valid

theorem encodePoints_toList (text : String) :
    encodePoints (text.toList.map Char.toNat) = .ok (encode text) := by
  have clean : ∀ n ∈ text.toList.map Char.toNat, isSurrogate n = false := by
    intro n member
    obtain ⟨c, -, rfl⟩ := List.mem_map.1 member
    have scalar := isValidChar_toNat c
    unfold Nat.isValidChar at scalar
    simp only [isSurrogate, Bool.and_eq_false_iff, decide_eq_false_iff_not]
    omega
  rw [encodePoints_of_no_surrogate clean, encode, List.flatMap_map]

/-- A string's UTF-8 bytes decode to its code points. -/
theorem decodePoints_encode (text : String) :
    decodePoints (encode text) = some (text.toList.map Char.toNat) := by
  rw [encode, ← List.flatMap_map (fun c : Char => c.toNat) encodePoint]
  exact decodePoints_flatMap_encodePoint fun n member => by
    obtain ⟨c, -, rfl⟩ := List.mem_map.1 member
    exact isValidChar_toNat c

/-! ## Lines -/

theorem linesFrom_append_lineFeed (current line rest : List Char)
    (unbroken : ∀ c ∈ line, isLineBreak c = false) :
    linesFrom current (line ++ '\n' :: rest) = (current.reverse ++ line) :: linesFrom [] rest := by
  induction line generalizing current with
  | nil =>
      simp [linesFrom, isLineBreak]
  | cons c line inductionHypothesis =>
      have notBreak : isLineBreak c = false := unbroken c List.mem_cons_self
      have notReturn : c ≠ '\r' := by
        rintro rfl
        simp [isLineBreak] at notBreak
      rw [List.cons_append, linesFrom.eq_3 _ _ _ (by simp [notReturn]), if_neg (by simp [notBreak]),
        inductionHypothesis _ fun other member => unbroken other (List.mem_cons_of_mem c member)]
      simp

theorem lines_join_lineFeed (written : List String)
    (unbroken : ∀ line ∈ written, ∀ c ∈ line.toList, isLineBreak c = false) :
    lines (String.join (written.map (· ++ "\n"))) = written := by
  induction written with
  | nil =>
      rfl
  | cons line rest inductionHypothesis =>
      have restLines := inductionHypothesis fun other member =>
        unbroken other (List.mem_cons_of_mem line member)
      simp only [lines, List.map_cons, String.join_cons, String.toList_append] at restLines ⊢
      rw [show ("\n" : String).toList = ['\n'] from rfl, List.append_assoc, List.singleton_append,
        linesFrom_append_lineFeed [] _ _ (unbroken line List.mem_cons_self), List.map_cons,
        restLines]
      simp

/-! ## Fields -/

section Fields

variable {α : Type} (separates : α → Bool)

theorem fieldsFrom_append_of_inside (current word rest : List α)
    (inside : ∀ c ∈ word, separates c = false) :
    fieldsFrom separates current (word ++ rest) =
      fieldsFrom separates (word.reverse ++ current) rest := by
  induction word generalizing current with
  | nil =>
      rfl
  | cons c word inductionHypothesis =>
      rw [List.cons_append, fieldsFrom, if_neg (by simp [inside c List.mem_cons_self]),
        inductionHypothesis _ fun other member => inside other (List.mem_cons_of_mem c member)]
      simp

theorem fieldsFrom_replicate_append {s : α} (separator : separates s = true) (count : Nat)
    (rest : List α) :
    fieldsFrom separates [] (List.replicate count s ++ rest) = fieldsFrom separates [] rest := by
  induction count with
  | zero =>
      rfl
  | succ count inductionHypothesis =>
      rw [List.replicate_succ, List.cons_append, fieldsFrom, if_pos separator, inductionHypothesis]
      rfl

/-- Words joined by one separator cut back into those words, when no word is empty and none
holds a separator. -/
theorem fieldsFrom_intercalate {s : α} (separator : separates s = true) (words : List (List α))
    (wordsOk : ∀ word ∈ words, word ≠ [] ∧ ∀ c ∈ word, separates c = false) :
    fieldsFrom separates [] ([s].intercalate words) = words := by
  induction words with
  | nil =>
      rfl
  | cons word rest inductionHypothesis =>
      obtain ⟨nonempty, inside⟩ := wordsOk word List.mem_cons_self
      have restWords := inductionHypothesis fun other member =>
        wordsOk other (List.mem_cons_of_mem word member)
      cases rest with
      | nil =>
          rw [List.intercalate_singleton, ← List.append_nil word,
            fieldsFrom_append_of_inside separates [] word [] inside]
          simp [fieldsFrom, closeField, nonempty]
      | cons next rest =>
          rw [List.intercalate_cons_cons, List.append_assoc,
            fieldsFrom_append_of_inside separates [] word _ inside, List.singleton_append,
            fieldsFrom, if_pos separator, restWords]
          simp [closeField, nonempty]

theorem fieldsFrom_of_separators (text : List α) (blank : ∀ c ∈ text, separates c = true) :
    fieldsFrom separates [] text = [] := by
  induction text with
  | nil =>
      rfl
  | cons c rest inductionHypothesis =>
      rw [fieldsFrom, if_pos (blank c List.mem_cons_self),
        inductionHypothesis fun other member => blank other (List.mem_cons_of_mem c member)]
      rfl

/-- Cutting items into fields commutes with renaming the items, when the renamed items
separate exactly where the items did. -/
theorem fieldsFrom_map {β : Type} (rename : α → β) (separatesRenamed : β → Bool)
    (agree : ∀ c, separatesRenamed (rename c) = separates c) (current text : List α) :
    fieldsFrom separatesRenamed (current.map rename) (text.map rename) =
      (fieldsFrom separates current text).map (List.map rename) := by
  induction text generalizing current with
  | nil =>
      cases current <;> simp [fieldsFrom, closeField]
  | cons c rest inductionHypothesis =>
      by_cases cuts : separates c = true
      · have restFields := inductionHypothesis []
        simp only [List.map_nil] at restFields
        cases current <;> simp [fieldsFrom, agree, cuts, closeField, restFields]
      · have restFields := inductionHypothesis (c :: current)
        simp only [List.map_cons] at restFields
        simp [fieldsFrom, agree, cuts, restFields]

end Fields

theorem pointFields_pointsOf (text : String) :
    pointFields (pointsOf text) = (fields text).map pointsOf := by
  have renamed := fieldsFrom_map isSeparator Char.toNat isSeparatorPoint (fun _ => rfl) []
    text.toList
  simpa [pointFields, pointsOf, fields, Function.comp_def] using renamed

theorem mem_intercalate {α : Type} {separator : List α} {pieces : List (List α)} {item : α}
    (member : item ∈ separator.intercalate pieces) :
    item ∈ separator ∨ ∃ piece ∈ pieces, item ∈ piece := by
  induction pieces with
  | nil =>
      simp at member
  | cons piece rest inductionHypothesis =>
      cases rest with
      | nil =>
          exact .inr ⟨piece, List.mem_cons_self, by simpa using member⟩
      | cons next later =>
          rw [List.intercalate_cons_cons] at member
          rcases List.mem_append.1 member with front | back
          · rcases List.mem_append.1 front with inPiece | inSeparator
            · exact .inr ⟨piece, List.mem_cons_self, inPiece⟩
            · exact .inl inSeparator
          · rcases inductionHypothesis back with inSeparator | ⟨other, otherMember, inOther⟩
            · exact .inl inSeparator
            · exact .inr ⟨other, List.mem_cons_of_mem piece otherMember, inOther⟩

end RefereeGrading.Text
