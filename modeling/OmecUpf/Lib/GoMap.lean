import Mathlib

/-!
# Go maps as references

A Go map value is a reference: `m2 := m1` copies the reference, and a write through either is
seen through both, while `make` gives a map no other value refers to. The maps a program has
made are kept in a `MapHeap`, where a map value is the index `MapRef` of its map.

* `MapHeap.get`, `MapHeap.make`, `MapHeap.set`, and the writes `insert` (`m[k] = v`) and `erase`
  (`delete(m, k)`) through a reference.
* `get_set_self`, `get_set_ne`, `get_make_self`, `get_make_of_lt`: a write reaches only its
  map, and `make` none that was made before.
* `set_set`, `set_get_self`, `insert_eq_set`: a write to one map is a replacement of it.
-/

namespace Go

/-- A map value: the index of the map it refers to. -/
abbrev MapRef := Nat

/-- The maps of type `map[κ]ν` a program has made, in the order it made them. -/
structure MapHeap (κ ν : Type) [DecidableEq κ] where
  maps : List (AList fun _ : κ => ν)

namespace MapHeap

variable {κ ν : Type} [DecidableEq κ]

/-- The map a reference refers to. -/
def get (h : MapHeap κ ν) (r : MapRef) : AList fun _ : κ => ν := h.maps[r]?.getD ∅

/-- `make(map[κ]ν)`: a new empty map, and its reference. -/
def make (h : MapHeap κ ν) : MapRef × MapHeap κ ν := (h.maps.length, ⟨h.maps ++ [∅]⟩)

/-- The map of `r` replaced by `m`. -/
def set (h : MapHeap κ ν) (r : MapRef) (m : AList fun _ : κ => ν) : MapHeap κ ν :=
  ⟨h.maps.set r m⟩

/-- `m[k] = v`, for `m` the map of `r`. -/
def insert (h : MapHeap κ ν) (r : MapRef) (k : κ) (v : ν) : MapHeap κ ν :=
  h.set r ((h.get r).insert k v)

/-- `delete(m, k)`, for `m` the map of `r`. -/
def erase (h : MapHeap κ ν) (r : MapRef) (k : κ) : MapHeap κ ν :=
  h.set r ((h.get r).erase k)

@[simp] theorem length_set (h : MapHeap κ ν) (r : MapRef) (m : AList fun _ : κ => ν) :
    (h.set r m).maps.length = h.maps.length := List.length_set

@[simp] theorem length_make (h : MapHeap κ ν) : h.make.2.maps.length = h.maps.length + 1 := by
  simp [make]

@[simp] theorem make_fst (h : MapHeap κ ν) : h.make.1 = h.maps.length := rfl

theorem get_set_self (h : MapHeap κ ν) {r : MapRef} (m : AList fun _ : κ => ν)
    (hr : r < h.maps.length) : (h.set r m).get r = m := by
  simp [get, set, List.getElem?_set_self hr]

theorem get_set_ne (h : MapHeap κ ν) {r r' : MapRef} (m : AList fun _ : κ => ν) (hne : r ≠ r') :
    (h.set r m).get r' = h.get r' := by
  simp [get, set, List.getElem?_set_ne hne]

/-- Writing back the map a reference refers to changes nothing. -/
theorem set_get_self (h : MapHeap κ ν) {r : MapRef} (hr : r < h.maps.length) :
    h.set r (h.get r) = h := by
  cases h
  simp [get, set, List.getElem?_eq_getElem hr]

theorem set_set (h : MapHeap κ ν) (r : MapRef) (m m' : AList fun _ : κ => ν) :
    (h.set r m).set r m' = h.set r m' := by
  simp [set]

theorem insert_eq_set (h : MapHeap κ ν) (r : MapRef) (k : κ) (v : ν) :
    h.insert r k v = h.set r ((h.get r).insert k v) := rfl

/-- The map `make` gives is empty. -/
@[simp] theorem get_make_self (h : MapHeap κ ν) : h.make.2.get h.make.1 = ∅ := by
  simp [get, make]

/-- `make` changes no map made before. -/
theorem get_make_of_lt (h : MapHeap κ ν) {r : MapRef} (hr : r < h.maps.length) :
    h.make.2.get r = h.get r := by
  simp [get, make, List.getElem?_append_left hr]

end MapHeap

end Go
