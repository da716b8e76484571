import Mathlib.Data.List.Basic
import Pagecraft.Bundle.Archive
import Pagecraft.Number.Power

/-! Reading an archive back. A reader that starts at the end of an archive, as readers of the format
do, finds the entries that were written, in their order and with their bytes, provided that the
archive is not too large for the widths of its fields. -/
namespace Pagecraft.Bundle

def Entry.stored (entry : Entry) : Bytes × Bytes := (entry.path.utf8, entry.bytes)

namespace Archive

def number : Bytes → Nat
  | [] => 0
  | byte :: bytes => byte.toNat + 256 * number bytes

theorem number_little (count n : Nat) : number (little count n) = n % twoTo (8 * count) := by
  induction count generalizing n with
  | zero => exact (Nat.mod_one n).symm
  | succ count ih =>
    have low : (UInt8.ofNat n).toNat = n % 256 := UInt8.toNat_ofNat'
    have wider : twoTo (8 * (count + 1)) = 256 * twoTo (8 * count) := by
      rw [Nat.mul_comm 256]
      exact Nat.pow_add 2 (8 * count) 8
    rw [little, number, ih, low, wider, Nat.mod_mul]

theorem twoTo_sixteen : twoTo 16 = 0x10000 := rfl

theorem twoTo_thirtyTwo : twoTo 32 = 0x100000000 := rfl

@[simp] theorem length_little (count n : Nat) : (little count n).length = count := by
  induction count generalizing n with
  | zero => rfl
  | succ count ih => rw [little, List.length_cons, ih]

theorem number_of_two_bytes {n : Nat} (small : n < 0x10000) :
    number [UInt8.ofNat n, UInt8.ofNat (n / 256)] = n := by
  have read : number (little 2 n) = n % 0x10000 := number_little 2 n
  rwa [Nat.mod_eq_of_lt small] at read

def numbers : List Nat → Bytes → List Nat
  | [], _ => []
  | width :: widths, bytes => number (bytes.take width) :: numbers widths (bytes.drop width)

@[simp] theorem numbers_nil (bytes : Bytes) : numbers [] bytes = [] := rfl

@[simp] theorem numbers_little (width n : Nat) (widths : List Nat) (rest : Bytes) :
    numbers (width :: widths) (little width n ++ rest) =
      n % twoTo (8 * width) :: numbers widths rest := by
  have taken : (little width n ++ rest).take width = little width n :=
    List.take_left' (length_little width n)
  have dropped : (little width n ++ rest).drop width = rest :=
    List.drop_left' (length_little width n)
  rw [numbers, taken, dropped, number_little]

def inflate? : Bytes → Option Bytes
  | final :: low :: high :: low' :: high' :: rest =>
    let length := number [low, high]
    if length + number [low', high'] = 0xffff ∧ length ≤ rest.length then
      if final = 1 then some (rest.take length)
      else (inflate? (rest.drop length)).map (rest.take length ++ ·)
    else none
  | _ => none
termination_by bytes => bytes.length
decreasing_by
  simp only [List.length_drop, List.length_cons]
  omega

theorem inflate?_block (final : Bool) {bytes : Bytes} (short : bytes.length ≤ 0xffff)
    (rest : Bytes) :
    inflate? (block final bytes ++ rest) =
      if final then some bytes else (inflate? rest).map (bytes ++ ·) := by
  have length := number_of_two_bytes (show bytes.length < 0x10000 by omega)
  have complement := number_of_two_bytes (show 0xffff - bytes.length < 0x10000 by omega)
  have fits : bytes.length + (0xffff - bytes.length) = 0xffff ∧
      bytes.length ≤ (bytes ++ rest).length := by
    rw [List.length_append]
    omega
  have shown : block final bytes ++ rest =
      (if final then 1 else 0) :: UInt8.ofNat bytes.length :: UInt8.ofNat (bytes.length / 256) ::
        UInt8.ofNat (0xffff - bytes.length) :: UInt8.ofNat ((0xffff - bytes.length) / 256) ::
          (bytes ++ rest) := by
    simp [block, little]
  rw [shown, inflate?]
  simp only [length, complement, if_pos fits, List.take_left, List.drop_left]
  cases final <;> simp

theorem inflate?_deflate {full : Nat} {bytes : Bytes} (least : full * 0xffff ≤ bytes.length)
    (most : bytes.length ≤ (full + 1) * 0xffff) : inflate? (deflate full bytes) = some bytes := by
  induction full generalizing bytes with
  | zero =>
    have short : bytes.length ≤ 0xffff := by omega
    have block := inflate?_block true short []
    rw [List.append_nil] at block
    rw [deflate, block, if_pos rfl]
  | succ full ih =>
    have taken : (bytes.take 0xffff).length ≤ 0xffff := List.length_take_le _ _
    have others : inflate? (deflate full (bytes.drop 0xffff)) = some (bytes.drop 0xffff) := by
      rw [Nat.succ_mul] at least most
      apply ih
      · rw [List.length_drop]
        exact Nat.le_sub_of_add_le least
      · rw [List.length_drop]
        exact Nat.sub_le_of_le_add most
    rw [deflate, inflate?_block false taken, others]
    simp

def restored? (method : Nat) (held : Bytes) : Option Bytes :=
  if method = 0 then some held else inflate? held

theorem restored?_held (entry : Entry) :
    restored? (Method.code entry.kind.method) (held entry) = some entry.bytes := by
  unfold held
  cases entry.kind.method with
  | stored => rfl
  | deflated =>
    have blocks := Nat.div_add_mod (entry.bytes.length - 1) 0xffff
    have rest : (entry.bytes.length - 1) % 0xffff < 0xffff := Nat.mod_lt _ (by omega)
    simp only [restored?, Method.code]
    generalize (entry.bytes.length - 1) / 0xffff = full at *
    apply inflate?_deflate <;> omega

/-! The directory -/

def data? (method checksum size : Nat) (bytes : Bytes) : Option Bytes :=
  match numbers [4, 2, 2, 2, 2, 2, 4, 4, 4, 2, 2] bytes with
  | [signature, _, _, _, _, _, _, _, _, name, extra] =>
    if signature = 0x04034b50 then
      (restored? method ((bytes.drop (30 + name + extra)).take size)).filter fun data =>
        (Crc32.checksum data).toNat = checksum
    else none
  | _ => none

def entries? (archive : Bytes) : Nat → Bytes → Option (List (Bytes × Bytes))
  | 0, _ => some []
  | count + 1, lines =>
    match numbers [4, 2, 2, 2, 2, 2, 2, 4, 4, 4, 2, 2, 2, 2, 2, 4, 4] lines with
    | [signature, _, _, _, method, _, _, checksum, size, _, name, extra, comment, _, _, _,
        offset] =>
      if signature = 0x02014b50 then do
        let data ← data? method checksum size (archive.drop offset)
        let others ← entries? archive count (lines.drop (46 + name + extra + comment))
        return ((lines.drop 46).take name, data) :: others
      else none
    | _ => none

/-- The names and the data of the entries of an archive that ends in an end record without a
comment. -/
def listing? (archive : Bytes) : Option (List (Bytes × Bytes)) :=
  match numbers [4, 2, 2, 2, 2, 4, 4, 2] (archive.drop (archive.length - 22)) with
  | [signature, _, _, _, count, _, offset, comment] =>
    if signature = 0x06054b50 ∧ comment = 0 then entries? archive count (archive.drop offset)
    else none
  | _ => none

/-- That the numbers of an archive fit in their fields. -/
structure Fits (entries : List Entry) : Prop where
  count : entries.length < 0x10000
  names : ∀ entry ∈ entries, entry.path.byteCount < 0x10000
  size : (bytes entries).length < 0x100000000

theorem length_description (entry : Entry) : (description entry).length = 26 := by
  simp [description, stamp]

section
variable {entry : Entry} (name : entry.path.byteCount < 0x10000)
  (size : (held entry).length < 0x100000000)
include name size

theorem numbers_description (widths : List Nat) (rest : Bytes) :
    numbers ([2, 2, 2, 2, 2, 4, 4, 4, 2, 2] ++ widths) (description entry ++ rest) =
      [20, flags entry % 0x10000, Method.code entry.kind.method, 0, 0x21,
        (Crc32.checksum entry.bytes).toNat, (held entry).length,
        entry.bytes.length % 0x100000000, entry.path.byteCount, 0] ++ numbers widths rest := by
  have code : Method.code entry.kind.method % 0x10000 = Method.code entry.kind.method := by
    cases entry.kind <;> rfl
  have checksum : (Crc32.checksum entry.bytes).toNat < 0x100000000 :=
    (Crc32.checksum entry.bytes).toNat_lt
  simp only [description, stamp, List.append_assoc, List.cons_append, List.nil_append,
    numbers_little, Nat.reduceMul, twoTo_sixteen, twoTo_thirtyTwo, code, Nat.mod_eq_of_lt name,
    Nat.mod_eq_of_lt size, Nat.mod_eq_of_lt checksum, Nat.reduceMod]

theorem data?_item (rest : Bytes) :
    data? (Method.code entry.kind.method) (Crc32.checksum entry.bytes).toNat (held entry).length
      (item entry ++ rest) = some entry.bytes := by
  have header : numbers [4, 2, 2, 2, 2, 2, 4, 4, 4, 2, 2] (item entry ++ rest) =
      0x04034b50 :: 20 :: flags entry % 0x10000 :: Method.code entry.kind.method :: 0 :: 0x21 ::
        (Crc32.checksum entry.bytes).toNat :: (held entry).length ::
        entry.bytes.length % 0x100000000 :: entry.path.byteCount :: 0 :: [] := by
    have facts := numbers_description name size []
    simp only [List.cons_append, List.nil_append] at facts
    simp only [item, List.append_assoc, numbers_little, numbers_nil, facts, Nat.reduceMul,
      twoTo_thirtyTwo, Nat.reduceMod]
  have front : (little 4 0x04034b50 ++ description entry ++ entry.path.utf8).length =
      30 + entry.path.byteCount := by
    rw [List.length_append, List.length_append, length_little, length_description]
    rfl
  have data : ((item entry ++ rest).drop (30 + entry.path.byteCount)).take (held entry).length =
      held entry := by
    rw [item, List.append_assoc, List.drop_left' front, List.take_left]
  simp only [data?, header, if_pos, Nat.add_zero, data, restored?_held, Option.filter_some,
    decide_true]

theorem entries?_line {archive : Bytes} {offset : Nat} (low : offset < 0x100000000) (behind : Bytes)
    (place : archive.drop offset = item entry ++ behind) (count : Nat) (lines : Bytes) :
    entries? archive (count + 1) (line entry offset ++ lines) =
      (entries? archive count lines).map (entry.stored :: ·) := by
  have blank : little 6 0 = little 2 0 ++ little 2 0 ++ little 2 0 := rfl
  have made : numbers [4, 2, 2, 2, 2, 2, 2, 4, 4, 4, 2, 2, 2, 2, 2, 4, 4]
      (line entry offset ++ lines) =
      0x02014b50 :: 788 :: 20 :: flags entry % 0x10000 :: Method.code entry.kind.method :: 0 ::
        0x21 :: (Crc32.checksum entry.bytes).toNat :: (held entry).length ::
        entry.bytes.length % 0x100000000 :: entry.path.byteCount :: 0 :: 0 :: 0 :: 0 ::
        entry.kind.mode * 0x10000 % 0x100000000 :: offset :: [] := by
    have facts := numbers_description name size [2, 2, 2, 4, 4]
    simp only [List.cons_append, List.nil_append] at facts
    simp only [line, blank, List.append_assoc, numbers_little, numbers_nil, facts,
      Nat.reduceMul, Nat.reduceAdd, twoTo_sixteen, twoTo_thirtyTwo, Nat.mod_eq_of_lt low,
      Nat.reduceMod]
  have heading : ∃ heading, heading.length = 46 ∧ line entry offset = heading ++ entry.path.utf8 :=
    ⟨_, by simp [length_description], rfl⟩
  obtain ⟨heading, length, eq⟩ := heading
  have named : ((line entry offset ++ lines).drop 46).take entry.path.byteCount =
      entry.path.utf8 := by
    rw [eq, List.append_assoc, List.drop_left' length]
    exact List.take_left
  have later : (line entry offset ++ lines).drop (46 + entry.path.byteCount) = lines := by
    apply List.drop_left'
    rw [eq, List.length_append, length]
    rfl
  simp only [entries?, made, if_pos, place, data?_item name size, Nat.add_zero, named, later]
  cases entries? archive count lines <;> rfl

end

/-- The entries are read back along the directory: what lies at the offset of each line is the item
of its entry. -/
theorem entries?_directory {archive : Bytes} {entries : List Entry}
    (names : ∀ entry ∈ entries, entry.path.byteCount < 0x10000) {offset : Nat} (behind : Bytes)
    (place : archive.drop offset = entries.flatMap item ++ behind)
    (low : offset + (entries.flatMap item).length < 0x100000000) (lines : Bytes) :
    entries? archive entries.length (directory offset entries ++ lines) =
      some (entries.map Entry.stored) := by
  induction entries generalizing offset with
  | nil => rfl
  | cons entry entries ih =>
    obtain ⟨name, names⟩ := List.forall_mem_cons.mp names
    rw [List.flatMap_cons, List.append_assoc] at place
    rw [List.flatMap_cons, List.length_append] at low
    have size : (held entry).length ≤ (item entry).length := by
      rw [item, List.length_append]
      exact Nat.le_add_left _ _
    have next : archive.drop (offset + (item entry).length) =
        entries.flatMap item ++ behind := by
      rw [← List.drop_drop, place, List.drop_left]
    have rest := ih names next (by omega)
    rw [directory, List.append_assoc, List.length_cons,
      entries?_line name (by omega) (by omega) _ place, rest]
    rfl

def ending (entries : List Entry) : Bytes :=
  little 4 0x06054b50 ++ (little 4 0 ++ (little 2 entries.length ++ (little 2 entries.length ++
    (little 4 (directory 0 entries).length ++ (little 4 (entries.flatMap item).length ++
      little 2 0)))))

theorem bytes_eq (entries : List Entry) :
    bytes entries = entries.flatMap item ++ (directory 0 entries ++ ending entries) := by
  simp only [bytes, ending, List.append_assoc]

theorem length_ending (entries : List Entry) : (ending entries).length = 22 := by
  simp only [ending, List.length_append, length_little]

theorem listing?_bytes {entries : List Entry} (fits : Fits entries) :
    listing? (bytes entries) = some (entries.map Entry.stored) := by
  have size := fits.size
  have length := length_ending entries
  rw [bytes_eq, List.length_append, List.length_append] at size
  have last : (bytes entries).drop ((bytes entries).length - 22) = ending entries := by
    rw [bytes_eq, ← List.append_assoc]
    apply List.drop_left'
    simp only [List.length_append, length, Nat.add_sub_cancel]
  have facts : numbers [4, 2, 2, 2, 2, 4, 4, 2] (ending entries) =
      0x06054b50 :: 0 :: 0 :: entries.length :: entries.length ::
        (directory 0 entries).length :: (entries.flatMap item).length :: 0 :: [] := by
    have blank : little 4 0 = little 2 0 ++ little 2 0 := rfl
    have lines : (directory 0 entries).length < 0x100000000 := by omega
    have items : (entries.flatMap item).length < 0x100000000 := by omega
    have closing : numbers [2] (little 2 0) = [0] := rfl
    simp only [ending, blank, List.append_assoc, numbers_little, closing, Nat.reduceMul,
      twoTo_sixteen, twoTo_thirtyTwo, Nat.mod_eq_of_lt fits.count, Nat.mod_eq_of_lt lines,
      Nat.mod_eq_of_lt items, Nat.reduceMod]
  have start : (bytes entries).drop (entries.flatMap item).length =
      directory 0 entries ++ ending entries := by
    rw [bytes_eq, List.drop_left]
  have place : (bytes entries).drop 0 =
      entries.flatMap item ++ (directory 0 entries ++ ending entries) := by
    rw [List.drop_zero, bytes_eq]
  have read := entries?_directory fits.names _ place (by omega) (ending entries)
  simp only [listing?, last, facts, and_self, if_true, start, read]

end Archive
end Pagecraft.Bundle
