import RefereeGrading.Grading
import RefereeGrading.Proofs.Sheet

/-!
# Where a run files its sheets

A folder files every file under the normal form of its name. Seen through a map that sends the
separator and the dot to nothing, a path and its normal form look the same, and the key of a
sheet shows the log's name, the index of its source and the suffix. So the sheets of two
sources never share a file, and no sheet shares the log's.
-/

namespace RefereeGrading

/-! ## What normalising keeps -/

namespace PathName

section Image

variable {α : Type}

theorem flatMap_intercalate_slash (image : Nat → List α) (slashFree : image slash = [])
    (pieces : List (List Nat)) :
    ([slash].intercalate pieces).flatMap image = pieces.flatMap (·.flatMap image) := by
  induction pieces with
  | nil =>
      rfl
  | cons piece rest inductionHypothesis =>
      cases rest with
      | nil =>
          simp
      | cons next later =>
          rw [List.intercalate_cons_cons, List.flatMap_append, List.flatMap_append,
            inductionHypothesis]
          simp [slashFree]

theorem root_slashes (text : List Nat) : ∀ n ∈ rootOf text, n = slash := by
  unfold rootOf
  split <;> simp

theorem flatMap_parts_ofPoints (image : Nat → List α) (slashFree : image slash = [])
    (dotFree : image dot = []) (text : List Nat) :
    (ofPoints text).parts.flatMap (·.flatMap image) = text.flatMap image := by
  -- the dropped components are empty or a dot, which show nothing
  have dropped : ∀ pieces : List (List Nat),
      (pieces.filter fun part => part ≠ [] && part ≠ [dot]).flatMap (·.flatMap image) =
        pieces.flatMap (·.flatMap image) := by
    intro pieces
    induction pieces with
    | nil =>
        rfl
    | cons piece rest inductionHypothesis =>
        by_cases empty : piece = []
        · subst empty
          simpa using inductionHypothesis
        by_cases lone : piece = [dot]
        · subst lone
          simpa [dotFree] using inductionHypothesis
        · simpa [empty, lone] using inductionHypothesis
  calc (ofPoints text).parts.flatMap (·.flatMap image)
      = (text.splitOn slash).flatMap (·.flatMap image) := dropped _
    _ = ([slash].intercalate (text.splitOn slash)).flatMap image :=
      (flatMap_intercalate_slash image slashFree _).symm
    _ = text.flatMap image := by rw [List.intercalate_splitOn]

theorem flatMap_toPoints (image : Nat → List α) (slashFree : image slash = [])
    (dotFree : image dot = []) (path : PathName) (slashes : ∀ n ∈ path.root, n = slash) :
    path.toPoints.flatMap image = path.parts.flatMap (·.flatMap image) := by
  have rootFree : path.root.flatMap image = [] := by
    rw [List.flatMap_eq_nil_iff]
    intro n member
    rw [slashes n member, slashFree]
  unfold toPoints
  split
  · rename_i bare
    simp only [Bool.and_eq_true, decide_eq_true_eq, List.isEmpty_iff] at bare
    rw [bare.2, List.flatMap_singleton, dotFree]
    rfl
  · rw [List.flatMap_append, rootFree, List.nil_append, flatMap_intercalate_slash image slashFree]

theorem flatMap_toPoints_ofPoints (image : Nat → List α) (slashFree : image slash = [])
    (dotFree : image dot = []) (text : List Nat) :
    (ofPoints text).toPoints.flatMap image = text.flatMap image := by
  rw [flatMap_toPoints image slashFree dotFree _ (root_slashes text)]
  exact flatMap_parts_ofPoints image slashFree dotFree text

end Image

end PathName

/-! ## File names -/

theorem Text.encodeFileName_ok {points : List Nat} {bytes : List UInt8}
    (encoded : Text.encodeFileName points = .ok bytes) :
    bytes = points.flatMap Text.fileNameBytes := by
  unfold Text.encodeFileName at encoded
  split at encoded
  · cases encoded
  · cases encoded
    rfl

theorem Text.fileNameBytes_of_lt {n : Nat} (ascii : n < 0x80) :
    Text.fileNameBytes n = [n.toUInt8] := by
  have notEscaped : Text.isEscapedByte n = false := by
    simp only [Text.isEscapedByte, Bool.and_eq_false_iff, decide_eq_false_iff_not]
    omega
  rw [Text.fileNameBytes, if_neg (by simp [notEscaped]), Text.encodePoint_of_lt ascii]

theorem Grading.fileNameOf_ok {path : List Nat} {name : List UInt8}
    (opened : Grading.fileNameOf path = .ok name) : name = path.flatMap Text.fileNameBytes := by
  unfold Grading.fileNameOf at opened
  split at opened
  · cases opened
  · rename_i bytes encoded
    split at opened
    · cases opened
    · cases opened
      exact Text.encodeFileName_ok encoded

/-! ## Folders -/

namespace Folder

/-- A byte of a file name, unless it is the separator or the dot. -/
def shownByte (b : UInt8) : List UInt8 :=
  if b = 0x2F ∨ b = 0x2E then [] else [b]

/-- The bytes of a file name other than separators and dots. -/
def visible (name : List UInt8) : List UInt8 :=
  name.flatMap shownByte

/-- What a code point of a path shows in the file name it is opened under. -/
def shownPoint (n : Nat) : List UInt8 :=
  visible (Text.fileNameBytes n)

theorem visible_key (name : List UInt8) : visible (key name) = visible name := by
  have slashFree : shownByte PathName.slash.toUInt8 = [] := by decide
  have dotFree : shownByte PathName.dot.toUInt8 = [] := by decide
  rw [visible, key, List.flatMap_map,
    PathName.flatMap_toPoints_ofPoints (fun n => shownByte n.toUInt8) slashFree dotFree,
    List.flatMap_map]
  simp [visible, Nat.toUInt8, UInt8.ofNat_toNat]

theorem visible_of_fileNameOf {path : List Nat} {name : List UInt8}
    (opened : Grading.fileNameOf path = .ok name) : visible name = path.flatMap shownPoint := by
  rw [Grading.fileNameOf_ok opened, visible, List.flatMap_assoc]
  rfl

theorem shownPoint_slash : shownPoint PathName.slash = [] := by
  rw [shownPoint, Text.fileNameBytes_of_lt (by decide)]
  decide

theorem shownPoint_dot : shownPoint PathName.dot = [] := by
  rw [shownPoint, Text.fileNameBytes_of_lt (by decide)]
  decide

/-- Reading a folder after writing a file gives the bytes written under the same key and
what was there before under any other. -/
theorem read?_write (folder : Folder) (name other bytes : List UInt8) :
    (folder.write name bytes).read? other =
      if key other = key name then some bytes else folder.read? other := by
  unfold write
  split
  · rename_i present
    -- the entry filed under the name's key is replaced in place, and no entry changes its key
    have sameTest : ((fun entry : List UInt8 × List UInt8 => decide (entry.1 = key other)) ∘
        fun entry => if entry.1 = key name then (entry.1, bytes) else entry) =
        fun entry => decide (entry.1 = key other) := by
      funext entry
      simp only [Function.comp_apply]
      split <;> rfl
    rw [read?, read?, List.find?_map, sameTest]
    by_cases sameKey : key other = key name
    · rw [if_pos sameKey, sameKey]
      obtain ⟨entry, found⟩ := Option.isSome_iff_exists.1 present
      simp only [read?, Option.map_eq_some_iff] at found
      obtain ⟨filed, isFiled, _⟩ := found
      have filedKey : filed.1 = key name := by simpa using List.find?_some isFiled
      simp [isFiled, filedKey]
    · rw [if_neg sameKey]
      cases found : List.find? (fun entry => decide (entry.1 = key other)) folder.files with
      | none =>
          rfl
      | some entry =>
          have entryKey : entry.1 = key other := by simpa using List.find?_some found
          simp [entryKey, sameKey]
  · rename_i absent
    have missing : List.find? (fun entry => decide (entry.1 = key name)) folder.files = none := by
      have nothing : folder.read? name = none := Option.not_isSome_iff_eq_none.1 absent
      simpa only [read?, Option.map_eq_none_iff] using nothing
    rw [read?, read?, List.find?_append]
    by_cases sameKey : key other = key name
    · rw [if_pos sameKey, sameKey, missing]
      simp
    · have notNew : List.find? (fun entry => decide (entry.1 = key other)) [(key name, bytes)] =
          none := by
        simp [Ne.symm sameKey]
      rw [if_neg sameKey, notNew, Option.or_none]

theorem shownPoint_digit {c : Nat} (low : 0x30 ≤ c) (high : c ≤ 0x39) :
    shownPoint c = [c.toUInt8] := by
  have byteValue : c.toUInt8.toNat = c := UInt8.toNat_ofNat_of_lt' (by simp only [UInt8.size]; omega)
  have notSlash : c.toUInt8 ≠ 0x2F := fun same => by
    rw [same] at byteValue
    simp at byteValue
    omega
  have notDot : c.toUInt8 ≠ 0x2E := fun same => by
    rw [same] at byteValue
    simp at byteValue
    omega
  rw [shownPoint, Text.fileNameBytes_of_lt (by omega), visible, List.flatMap_singleton, shownByte,
    if_neg (not_or.2 ⟨notSlash, notDot⟩)]

theorem flatMap_shownPoint_numeral (n : Nat) :
    (Sheet.numeral n).flatMap shownPoint = (Sheet.numeral n).map Nat.toUInt8 := by
  have digits : ∀ c ∈ Sheet.numeral n, 0x30 ≤ c ∧ c ≤ 0x39 := by
    intro c member
    obtain ⟨char, charMember, rfl⟩ := List.mem_map.1 member
    exact Sheet.digit_of_mem_numeral charMember
  generalize Sheet.numeral n = points at digits ⊢
  induction points with
  | nil =>
      rfl
  | cons c rest inductionHypothesis =>
      obtain ⟨low, high⟩ := digits c List.mem_cons_self
      rw [List.flatMap_cons, shownPoint_digit low high,
        inductionHypothesis fun other member => digits other (List.mem_cons_of_mem c member)]
      rfl

end Folder

/-! ## The files of a run -/

theorem PathName.withName_ok {path : PathName} {newName : List Nat} {renamed : PathName}
    (ok : path.withName newName = .ok renamed) :
    path.name ≠ [] ∧ renamed = { path with parts := path.parts.dropLast ++ [newName] } := by
  unfold PathName.withName at ok
  split at ok
  · cases ok
  · split at ok
    · cases ok
    · rename_i named _
      cases ok
      exact ⟨named, rfl⟩

theorem visible_key_log {logPath : List Nat} {name : List UInt8}
    (opened : Grading.fileNameOf (PathName.ofPoints logPath).toPoints = .ok name) :
    Folder.visible (Folder.key name) = logPath.flatMap Folder.shownPoint := by
  rw [Folder.visible_key, Folder.visible_of_fileNameOf opened,
    PathName.flatMap_toPoints_ofPoints _ Folder.shownPoint_slash Folder.shownPoint_dot]

theorem flatMap_pathFor {α : Type} (image : Nat → List α) (slashFree : image PathName.slash = [])
    (dotFree : image PathName.dot = []) {logPath suffix fallback written : List Nat} {index : Int}
    (path : Sheet.pathFor logPath index suffix fallback = .ok written) :
    written.flatMap image = logPath.flatMap image ++
      (Text.pointsOf (toString index)).flatMap image ++
        (if suffix = [] then fallback else suffix).flatMap image := by
  unfold Sheet.pathFor at path
  dsimp only at path
  generalize (if suffix = [] then fallback else suffix) = ending at path ⊢
  set log := PathName.ofPoints logPath with logDef
  cases renamedOk : log.withName
      (log.name ++ [PathName.dot] ++ Text.pointsOf (toString index) ++ [PathName.dot] ++
        ending) with
  | error problem =>
      rw [renamedOk] at path
      cases path
  | ok renamed =>
      rw [renamedOk] at path
      cases path
      obtain ⟨named, rfl⟩ := PathName.withName_ok renamedOk
      have nonempty : log.parts ≠ [] := fun empty => named (by simp [PathName.name, empty])
      have lastName : log.parts.dropLast ++ [log.name] = log.parts := by
        rw [PathName.name, List.getLastD_eq_getLast?, List.getLast?_eq_some_getLast nonempty]
        exact List.dropLast_concat_getLast nonempty
      have shownLog : logPath.flatMap image =
          (log.parts.dropLast ++ [log.name]).flatMap (·.flatMap image) := by
        rw [lastName, logDef, PathName.flatMap_parts_ofPoints _ slashFree dotFree]
      rw [PathName.flatMap_toPoints _ slashFree dotFree _ (PathName.root_slashes logPath),
        shownLog]
      simp only [List.flatMap_append, List.flatMap_cons, List.flatMap_nil, List.append_nil,
        dotFree, List.append_assoc, List.nil_append]

theorem visible_key_sheet {logPath suffix fallback written : List Nat} {index : Nat}
    {name : List UInt8} (path : Sheet.pathFor logPath index suffix fallback = .ok written)
    (opened : Grading.fileNameOf (PathName.ofPoints written).toPoints = .ok name) :
    Folder.visible (Folder.key name) = logPath.flatMap Folder.shownPoint ++
      (Sheet.numeral index).map Nat.toUInt8 ++
        (if suffix = [] then fallback else suffix).flatMap Folder.shownPoint := by
  have digits : (Text.pointsOf (toString (index : Int))).flatMap Folder.shownPoint =
      (Sheet.numeral index).map Nat.toUInt8 :=
    Folder.flatMap_shownPoint_numeral index
  rw [Folder.visible_key, Folder.visible_of_fileNameOf opened,
    PathName.flatMap_toPoints_ofPoints _ Folder.shownPoint_slash Folder.shownPoint_dot,
    flatMap_pathFor _ Folder.shownPoint_slash Folder.shownPoint_dot path, digits]

theorem toNat_numeral_bytes (n : Nat) :
    ((Sheet.numeral n).map Nat.toUInt8).map UInt8.toNat = Sheet.numeral n := by
  rw [List.map_map]
  conv => rhs; rw [← List.map_id (Sheet.numeral n)]
  apply List.map_congr_left
  intro c member
  obtain ⟨char, charMember, rfl⟩ := List.mem_map.1 member
  have digit := Sheet.digit_of_mem_numeral charMember
  exact UInt8.toNat_ofNat_of_lt' (by simp only [UInt8.size]; omega)

theorem sheet_key_ne_log_key {logPath suffix fallback written : List Nat} {index : Nat}
    {sheet log : List UInt8} (path : Sheet.pathFor logPath index suffix fallback = .ok written)
    (opened : Grading.fileNameOf (PathName.ofPoints written).toPoints = .ok sheet)
    (logOpened : Grading.fileNameOf (PathName.ofPoints logPath).toPoints = .ok log) :
    Folder.key sheet ≠ Folder.key log := by
  intro same
  have shown := congrArg Folder.visible same
  rw [visible_key_sheet path opened, visible_key_log logOpened] at shown
  have lengths := congrArg List.length shown
  have digits : (Sheet.numeral index).length ≠ 0 := by
    simp [Sheet.numeral, Text.pointsOf]
  simp only [List.length_append, List.length_map] at lengths
  omega

/-- The sheets of two sources are filed apart: their keys show different indices. -/
theorem sheet_keys_ne {logPath suffix fallback written otherWritten : List Nat}
    {index other : Nat} {sheet otherSheet : List UInt8}
    (path : Sheet.pathFor logPath index suffix fallback = .ok written)
    (opened : Grading.fileNameOf (PathName.ofPoints written).toPoints = .ok sheet)
    (otherPath : Sheet.pathFor logPath other suffix fallback = .ok otherWritten)
    (otherOpened : Grading.fileNameOf (PathName.ofPoints otherWritten).toPoints = .ok otherSheet)
    (different : index ≠ other) : Folder.key sheet ≠ Folder.key otherSheet := by
  intro same
  have shown := congrArg Folder.visible same
  rw [visible_key_sheet path opened, visible_key_sheet otherPath otherOpened] at shown
  have digits : (Sheet.numeral index).map Nat.toUInt8 = (Sheet.numeral other).map Nat.toUInt8 :=
    List.append_cancel_left (List.append_cancel_right shown)
  have numerals : Sheet.numeral index = Sheet.numeral other := by
    rw [← toNat_numeral_bytes index, digits, toNat_numeral_bytes]
  apply different
  rw [← Sheet.unsignedValue_numeral index, numerals, Sheet.unsignedValue_numeral]

end RefereeGrading
