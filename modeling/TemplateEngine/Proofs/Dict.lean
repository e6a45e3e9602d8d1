import Mathlib.Data.Finset.Card
import Mathlib.Data.String.Basic
import Mathlib.Tactic.SplitIfs
import TemplateEngine.Dict

/-! # Laws of dictionaries -/

namespace TemplateEngine.Dict

universe u

variable {α : Type u}

theorem find?_insert_self (key : String) (value : α) (dict : Dict α) :
    find? (insert key value dict) key = some value := by
  induction dict with
  | nil => simp [insert, find?]
  | cons entry entries ih =>
    obtain ⟨k, v⟩ := entry
    unfold insert
    split_ifs with heq hlt
    · exact if_pos rfl
    · exact if_pos rfl
    · rw [find?, if_neg (fun h => heq h.symm)]
      exact ih

theorem find?_insert_of_ne {key other : String} (h : other ≠ key) (value : α) (dict : Dict α) :
    find? (insert key value dict) other = find? dict other := by
  induction dict with
  | nil => exact if_neg h.symm
  | cons entry entries ih =>
    obtain ⟨k, v⟩ := entry
    unfold insert
    split_ifs with heq hlt
    · rw [find?, find?, if_neg h.symm, if_neg (heq ▸ h.symm)]
    · exact if_neg h.symm
    · rw [find?, find?, ih]

theorem mem_of_find?_eq_some {dict : Dict α} {key : String} {value : α}
    (h : find? dict key = some value) : (key, value) ∈ dict := by
  induction dict with
  | nil => cases h
  | cons entry entries ih =>
    obtain ⟨k, v⟩ := entry
    rw [find?] at h
    split_ifs at h with heq
    · obtain rfl := Option.some.inj h
      exact heq ▸ List.mem_cons_self
    · exact List.mem_cons_of_mem _ (ih h)

theorem mem_keys_of_find?_eq_some {dict : Dict α} {key : String} {value : α}
    (h : find? dict key = some value) : key ∈ keys dict :=
  List.mem_map_of_mem (mem_of_find?_eq_some h)

universe v

def mapValues {β : Type v} (f : String → α → β) (dict : Dict α) : Dict β :=
  dict.map fun entry => (entry.1, f entry.1 entry.2)

section

variable {β : Type v} (f : String → α → β)

theorem find?_mapValues (dict : Dict α) (key : String) :
    find? (mapValues f dict) key = (find? dict key).map (f key) := by
  induction dict with
  | nil => rfl
  | cons entry entries ih =>
    obtain ⟨k, v⟩ := entry
    rw [mapValues, List.map_cons, find?, find?]
    split_ifs with heq
    · subst heq
      rfl
    · exact ih

theorem insert_mapValues (key : String) (value : α) (dict : Dict α) :
    insert key (f key value) (mapValues f dict) = mapValues f (insert key value dict) := by
  induction dict with
  | nil => rfl
  | cons entry entries ih =>
    obtain ⟨k, v⟩ := entry
    rw [mapValues, List.map_cons]
    unfold insert
    split_ifs with heq hlt
    · rfl
    · rfl
    · exact congrArg ((k, f k v) :: ·) ih

end

theorem mem_keys_insert {key other : String} {value : α} {dict : Dict α} :
    other ∈ keys (insert key value dict) ↔ other = key ∨ other ∈ keys dict := by
  induction dict with
  | nil => simp [insert, keys]
  | cons entry entries ih =>
    obtain ⟨k, v⟩ := entry
    unfold insert
    split_ifs with heq hlt
    · simp [keys, heq]
    · simp [keys]
    · simp only [keys, List.map_cons, List.mem_cons] at ih ⊢
      rw [ih]
      exact or_left_comm

theorem Sorted.insert {dict : Dict α} (h : Sorted dict) (key : String) (value : α) :
    Sorted (insert key value dict) := by
  induction dict with
  | nil => exact List.pairwise_singleton _ _
  | cons entry entries ih =>
    obtain ⟨k, v⟩ := entry
    obtain ⟨hall, hentries⟩ := List.pairwise_cons.mp h
    unfold Dict.insert
    split_ifs with heq hlt
    · exact List.pairwise_cons.mpr ⟨heq ▸ hall, hentries⟩
    · refine List.pairwise_cons.mpr ⟨fun other hother => ?_, h⟩
      rcases List.mem_cons.mp hother with rfl | hother
      · exact hlt
      · exact lt_trans hlt (hall other hother)
    · refine List.pairwise_cons.mpr ⟨fun other hother => ?_, ih hentries⟩
      have hkey : other.1 ∈ keys (Dict.insert key value entries) := List.mem_map_of_mem hother
      rcases mem_keys_insert.mp hkey with hsame | hmem
      · exact lt_of_le_of_ne (not_lt.mp (hsame ▸ hlt)) (hsame ▸ Ne.symm heq)
      · obtain ⟨old, hold, hfst⟩ := List.mem_map.mp hmem
        exact hfst ▸ hall old hold

theorem Sorted.nodup_keys {dict : Dict α} (h : Sorted dict) : (keys dict).Nodup :=
  List.pairwise_map.mpr (h.imp fun hlt => ne_of_lt hlt)

theorem Sorted.find?_eq_some_iff {dict : Dict α} (h : Sorted dict) {key : String} {value : α} :
    find? dict key = some value ↔ (key, value) ∈ dict := by
  refine ⟨mem_of_find?_eq_some, fun hmem => ?_⟩
  induction dict with
  | nil => cases hmem
  | cons entry entries ih =>
    obtain ⟨k, v⟩ := entry
    obtain ⟨hall, hentries⟩ := List.pairwise_cons.mp h
    rcases List.mem_cons.mp hmem with heq | hmem
    · obtain ⟨rfl, rfl⟩ := Prod.mk.inj heq
      exact if_pos rfl
    · rw [find?, if_neg (ne_of_lt (hall _ hmem))]
      exact ih hentries hmem

/-- Entries in increasing order are determined by what is found under each key. -/
theorem Sorted.ext {dict other : Dict α} (h : Sorted dict) (hother : Sorted other)
    (hfind : ∀ key, find? dict key = find? other key) : dict = other := by
  have hmem : ∀ entry, entry ∈ dict ↔ entry ∈ other := by
    rintro ⟨key, value⟩
    rw [← h.find?_eq_some_iff, ← hother.find?_eq_some_iff, hfind key]
  have hperm : dict.Perm other :=
    (List.perm_ext_iff_of_nodup h.nodup_keys.of_map hother.nodup_keys.of_map).mpr hmem
  exact hperm.eq_of_pairwise (fun a b _ _ hlt hgt => absurd hlt (lt_asymm hgt)) h hother

theorem ofEntries_append_singleton (entries : List (String × α)) (entry : String × α) :
    ofEntries (entries ++ [entry]) = insert entry.1 entry.2 (ofEntries entries) :=
  List.foldl_append

theorem sorted_ofEntries (entries : List (String × α)) : Sorted (ofEntries entries) := by
  induction entries using List.reverseRecOn with
  | nil => exact List.Pairwise.nil
  | append_singleton entries entry ih =>
    rw [ofEntries_append_singleton]
    exact ih.insert entry.1 entry.2

theorem mem_keys_ofEntries {entries : List (String × α)} {key : String} :
    key ∈ keys (ofEntries entries) ↔ key ∈ entries.map Prod.fst := by
  induction entries using List.reverseRecOn with
  | nil => rfl
  | append_singleton entries entry ih =>
    rw [ofEntries_append_singleton, mem_keys_insert, ih, List.map_append, List.mem_append,
      List.map_singleton, List.mem_singleton, or_comm]

/-- A dictionary has an entry for every entry it is made of exactly if no key repeats. -/
theorem length_ofEntries_eq_iff {entries : List (String × α)} :
    (ofEntries entries).length = entries.length ↔ (entries.map Prod.fst).Nodup := by
  have hkeys : (keys (ofEntries entries)).toFinset = (entries.map Prod.fst).toFinset := by
    ext key
    rw [List.mem_toFinset, List.mem_toFinset, mem_keys_ofEntries]
  have hlength := List.toFinset_card_of_nodup (sorted_ofEntries entries).nodup_keys
  rw [hkeys, keys, List.length_map] at hlength
  have hcount : (entries.map Prod.fst).length = entries.length := List.length_map Prod.fst
  rw [← hlength, ← hcount]
  exact Multiset.toFinset_card_eq_card_iff_nodup.trans Multiset.coe_nodup

/-- The last entry under a key is the one that is found. -/
theorem find?_ofEntries_append (entries : List (String × α)) {others : List (String × α)}
    {key : String} (value : α) (h : key ∉ others.map Prod.fst) :
    find? (ofEntries (entries ++ (key, value) :: others)) key = some value := by
  induction others using List.reverseRecOn with
  | nil =>
    rw [ofEntries_append_singleton]
    exact find?_insert_self key value _
  | append_singleton others entry ih =>
    rw [List.map_append, List.mem_append, not_or] at h
    rw [← List.cons_append, ← List.append_assoc, ofEntries_append_singleton,
      find?_insert_of_ne (fun hsame : key = entry.1 => h.2 (List.mem_singleton.mpr hsame))]
    exact ih h.1

/-- Where the last entry comes first it is the first of its key. -/
theorem find?_ofEntries_reverse (entries : List (String × α)) (key : String) :
    find? (ofEntries entries.reverse) key = entries.lookup key := by
  induction entries with
  | nil => rfl
  | cons entry entries ih =>
    obtain ⟨k, v⟩ := entry
    rw [List.reverse_cons, ofEntries_append_singleton]
    by_cases heq : key = k
    · subst heq
      rw [find?_insert_self, List.lookup_cons_self]
    · rw [find?_insert_of_ne heq, ih, List.lookup_cons, beq_false_of_ne heq]

theorem find?_ofEntries_of_mem {entries : List (String × α)} {key : String} {value : α}
    (hnodup : (entries.map Prod.fst).Nodup) (h : (key, value) ∈ entries) :
    find? (ofEntries entries) key = some value := by
  obtain ⟨front, others, rfl⟩ := List.append_of_mem h
  rw [List.map_append, List.map_cons] at hnodup
  exact find?_ofEntries_append front value
    (List.nodup_cons.mp (List.nodup_append.mp hnodup).2.1).1

end TemplateEngine.Dict
