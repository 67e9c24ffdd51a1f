import Mathlib.Data.List.Basic
import Mathlib.Data.List.Nodup
import Mathlib.Tactic.Common

/-! Tables of named entries whose names are compared through a key. The first
spelling of a name is stored and no two entries have names with the same key,
so that a table with `fold` the identity is an ordinary finite map and one with
`fold` the lower-casing of letters is a case-insensitive catalog. -/

namespace PgAnalytics.NameTables

variable {ι κ ν : Type} [DecidableEq κ] {fold : ι → κ}

structure NameTable (fold : ι → κ) (ν : Type) where
  entries : List (ι × ν)
  distinct : (entries.map (fun e => fold e.1)).Nodup

namespace NameTable

def empty : NameTable fold ν := ⟨[], List.nodup_nil⟩

def find (t : NameTable fold ν) (name : ι) : Option (ι × ν) :=
  t.entries.find? (fun e => fold e.1 = fold name)

def lookup (t : NameTable fold ν) (name : ι) : Option ν := (t.find name).map Prod.snd

def erase (t : NameTable fold ν) (name : ι) : NameTable fold ν where
  entries := t.entries.filter (fun e => fold e.1 ≠ fold name)
  distinct := t.distinct.sublist (List.filter_sublist.map _)

theorem find_eq_none {t : NameTable fold ν} {name : ι} :
    t.find name = none ↔ ∀ e ∈ t.entries, fold e.1 ≠ fold name := by
  simp [find]

/-- The entry is stored under its own spelling; an occupied name is left alone. -/
def insertNew (t : NameTable fold ν) (name : ι) (v : ν) : NameTable fold ν :=
  if free : t.find name = none then
    { entries := t.entries ++ [(name, v)]
      distinct := by
        rw [List.map_append, List.map_singleton, List.nodup_append]
        refine ⟨t.distinct, List.nodup_singleton _, ?_⟩
        intro a ha b hb
        obtain ⟨e, he, rfl⟩ := List.mem_map.mp ha
        rw [List.mem_singleton.mp hb]
        exact find_eq_none.mp free e he }
  else t

theorem entries_insertNew (t : NameTable fold ν) (name : ι) (v : ν) :
    (t.insertNew name v).entries = t.entries ∨
      (t.insertNew name v).entries = t.entries ++ [(name, v)] := by
  unfold insertNew
  split
  · exact .inr rfl
  · exact .inl rfl

def replace (t : NameTable fold ν) (name : ι) (v : ν) : NameTable fold ν :=
  (t.erase name).insertNew name v

@[simp] theorem find_empty (name : ι) : (empty : NameTable fold ν).find name = none := rfl

theorem find_key {t : NameTable fold ν} {name : ι} {e : ι × ν}
    (h : t.find name = some e) : fold e.1 = fold name := by
  simpa using List.find?_some h

theorem find_congr (t : NameTable fold ν) {a b : ι} (h : fold a = fold b) :
    t.find a = t.find b := by
  rw [find, find, h]

@[simp] theorem find_erase_self (t : NameTable fold ν) (name : ι) :
    (t.erase name).find name = none := by
  rw [find_eq_none]
  intro e he
  simpa using (List.mem_filter.mp he).2

theorem find_erase_of_ne (t : NameTable fold ν) {a b : ι} (h : fold b ≠ fold a) :
    (t.erase a).find b = t.find b := by
  simp only [find, erase, List.find?_filter]
  congr 1
  funext e
  by_cases he : fold e.1 = fold b
  · simp [he, h]
  · simp [he]

theorem find_insertNew_self_of_none {t : NameTable fold ν} {name : ι} (v : ν)
    (h : t.find name = none) : (t.insertNew name v).find name = some (name, v) := by
  rw [insertNew, dif_pos h, find, List.find?_append]
  rw [find] at h
  simp [h]

theorem insertNew_of_some {t : NameTable fold ν} {name : ι} (v : ν) {e : ι × ν}
    (h : t.find name = some e) : t.insertNew name v = t := by
  rw [insertNew, dif_neg (by simp [h])]

theorem find_insertNew_isSome (t : NameTable fold ν) (name : ι) (v : ν) :
    ((t.insertNew name v).find name).isSome := by
  cases h : t.find name with
  | none => simp [find_insertNew_self_of_none v h]
  | some e => simp [insertNew_of_some v h, h]

theorem find_insertNew_of_ne (t : NameTable fold ν) {a b : ι} (v : ν)
    (h : fold b ≠ fold a) : (t.insertNew a v).find b = t.find b := by
  unfold insertNew
  split
  · simp [find, List.find?_append, Ne.symm h]
  · rfl

theorem lookup_insertNew_of_none {t : NameTable fold ν} {a : ι} (v : ν) (free : t.find a = none)
    (b : ι) : (t.insertNew a v).lookup b = if fold b = fold a then some v else t.lookup b := by
  unfold lookup
  split
  · rename_i same
    rw [find_congr _ same, find_insertNew_self_of_none v free]
    rfl
  · rename_i other
    rw [find_insertNew_of_ne t v other]

theorem lookup_erase (t : NameTable fold ν) (a b : ι) :
    (t.erase a).lookup b = if fold b = fold a then none else t.lookup b := by
  unfold lookup
  split
  · rename_i same
    rw [find_congr _ same, find_erase_self]
    rfl
  · rename_i other
    rw [find_erase_of_ne t other]

theorem lookup_replace (t : NameTable fold ν) (a b : ι) (v : ν) :
    (t.replace a v).lookup b = if fold b = fold a then some v else t.lookup b := by
  rw [replace, lookup_insertNew_of_none v (find_erase_self t a), lookup_erase]
  split <;> rfl

theorem exists_mem_of_lookup {t : NameTable fold ν} {name : ι} {v : ν}
    (h : t.lookup name = some v) : ∃ e ∈ t.entries, fold e.1 = fold name ∧ e.2 = v := by
  obtain ⟨e, found, rfl⟩ := Option.map_eq_some_iff.mp h
  exact ⟨e, List.mem_of_find?_eq_some found, find_key found, rfl⟩

/-- The spelled-out name is an entry's own name, not only one with the same key. -/
def spelled [DecidableEq ι] (t : NameTable fold ν) (name : ι) : Bool :=
  t.entries.any (fun e => e.1 = name)

theorem spelled_insertNew_of_none [DecidableEq ι] {t : NameTable fold ν} {name : ι} (v : ν)
    (free : t.find name = none) : (t.insertNew name v).spelled name = true := by
  rw [insertNew, dif_pos free, spelled]
  simp

theorem find_isSome_of_spelled [DecidableEq ι] {t : NameTable fold ν} {name : ι}
    (h : t.spelled name = true) : (t.find name).isSome := by
  obtain ⟨e, he, hn⟩ := List.any_eq_true.mp h
  rw [find, List.find?_isSome]
  exact ⟨e, he, by simpa using congrArg fold (of_decide_eq_true hn)⟩

end NameTable

end PgAnalytics.NameTables
