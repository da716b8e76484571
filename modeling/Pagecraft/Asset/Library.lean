import Pagecraft.Asset.Record
import Pagecraft.Text.Keyed

/-! A library holds assets by path. The first record of a path stays, so that what is inserted
earlier takes precedence over what comes later. -/
namespace Pagecraft.Asset

structure Library where
  records : List Record
  increasing : records.Pairwise fun a b => Text.before a.path b.path

namespace Library

def place (record : Record) : List Record → List Record
  | [] => [record]
  | r :: rest =>
    if Text.before record.path r.path then record :: r :: rest
    else if r.path = record.path then r :: rest
    else r :: place record rest

theorem mem_place {record r : Record} {records : List Record} (h : r ∈ place record records) :
    r = record ∨ r ∈ records := by
  fun_induction place record records <;> grind

theorem pairwise_place {records : List Record}
    (h : records.Pairwise fun a b => Text.before a.path b.path) (record : Record) :
    (place record records).Pairwise fun a b => Text.before a.path b.path := by
  fun_induction place record records with
  | case1 => simp
  | case2 r rest before =>
    refine List.pairwise_cons.mpr ⟨fun a ha => ?_, h⟩
    rcases List.mem_cons.mp ha with rfl | ha
    · exact before
    · exact Text.before_trans before ((List.pairwise_cons.mp h).1 a ha)
  | case3 => exact h
  | case4 r rest notBefore ne ih =>
    obtain ⟨first, rest⟩ := List.pairwise_cons.mp h
    refine List.pairwise_cons.mpr ⟨fun a ha => ?_, ih rest⟩
    rcases mem_place ha with rfl | ha
    · exact Text.before_of_not_before notBefore (Ne.symm ne)
    · exact first a ha

def empty : Library := ⟨[], .nil⟩

def insert (library : Library) (record : Record) : Library :=
  ⟨place record library.records, pairwise_place library.increasing record⟩

def extend (library : Library) (records : List Record) : Library :=
  records.foldl insert library

def ofList (records : List Record) : Library := empty.extend records

def get? (library : Library) (path : Text) : Option Record :=
  library.records.find? fun record => record.path = path

def contains (library : Library) (path : Text) : Bool := (library.get? path).isSome

/-- Inserts a record and tells whether its path was free. -/
def offer (library : Library) (record : Record) : Bool × Library :=
  (!library.contains record.path, library.insert record)

def size (library : Library) : Nat := library.records.length

def paths (library : Library) : List Text := library.records.map Record.path

def inlineTable (library : Library) : Keyed Text :=
  library.records.map fun record => (record.path, record.dataUri)

end Pagecraft.Asset.Library
