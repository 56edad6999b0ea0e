/-!
# Entries

Named values in the order in which the names were first given. Giving a name again replaces its
value and keeps its place, so names stay distinct.
-/

namespace NetworkPlan

/-- Named values in order. -/
abbrev Entries (α : Type u) := List (String × α)

namespace Entries

variable {α : Type u}

/-- The value of a name. -/
def get? (key : String) : Entries α → Option α
  | [] => none
  | (k, v) :: rest => if k = key then some v else get? key rest

/-- Gives a name a value: in place if the name is there, else at the end. -/
def put (key : String) (value : α) : Entries α → Entries α
  | [] => [(key, value)]
  | (k, v) :: rest => if k = key then (k, value) :: rest else (k, v) :: put key value rest

/-- Gives names their values one after the other. -/
def putAll (entries added : Entries α) : Entries α :=
  added.foldl (fun entries (k, v) => put k v entries) entries

/-- The names, in order. -/
def keys (entries : Entries α) : List String :=
  entries.map Prod.fst

@[simp] theorem get?_nil (key : String) : get? key ([] : Entries α) = none := rfl

theorem get?_cons (key k : String) (v : α) (rest : Entries α) :
    get? key ((k, v) :: rest) = if k = key then some v else get? key rest := rfl

@[simp] theorem put_nil (key : String) (value : α) : put key value [] = [(key, value)] := rfl

theorem put_cons (key k : String) (value v : α) (rest : Entries α) :
    put key value ((k, v) :: rest) =
      if k = key then (k, value) :: rest else (k, v) :: put key value rest := rfl

theorem keys_cons (key : String) (value : α) (rest : Entries α) :
    keys ((key, value) :: rest) = key :: keys rest := rfl

theorem get?_put (key other : String) (value : α) (entries : Entries α) :
    get? other (put key value entries) =
      if key = other then some value else get? other entries := by
  induction entries with
  | nil => rfl
  | cons entry rest ih =>
      obtain ⟨k, v⟩ := entry
      by_cases hk : k = key
      · subst hk
        by_cases ho : k = other <;> simp [put_cons, get?_cons, ho]
      · by_cases ho : k = other
        · subst ho
          simp [put_cons, get?_cons, hk, Ne.symm hk]
        · simp [put_cons, get?_cons, hk, ho, ih]

theorem keys_append (before after : Entries α) :
    keys (before ++ after) = keys before ++ keys after :=
  List.map_append

theorem not_mem_keys_of_nodup {key : String} {value : α} {before after : Entries α}
    (h : (keys (before ++ (key, value) :: after)).Nodup) : key ∉ keys before := by
  rw [keys_append, List.nodup_append] at h
  exact fun hmem => h.2.2 key hmem key List.mem_cons_self rfl

/-- A new name goes to the end. -/
theorem put_of_not_mem {key : String} (value : α) {entries : Entries α} (h : key ∉ keys entries) :
    put key value entries = entries ++ [(key, value)] := by
  induction entries with
  | nil => rfl
  | cons entry rest ih =>
      obtain ⟨k, v⟩ := entry
      rw [keys_cons, List.mem_cons, not_or] at h
      rw [put_cons, if_neg (Ne.symm h.1), ih h.2, List.cons_append]

theorem mem_keys_put (key other : String) (value : α) (entries : Entries α) :
    other ∈ keys (put key value entries) ↔ other = key ∨ other ∈ keys entries := by
  induction entries with
  | nil => simp [keys]
  | cons entry rest ih =>
      obtain ⟨k, v⟩ := entry
      by_cases hk : k = key
      · subst hk
        simp [put_cons, keys_cons]
      · rw [put_cons, if_neg hk, keys_cons, keys_cons, List.mem_cons, List.mem_cons, ih,
          or_left_comm]

/-- Distinct names stay distinct. -/
theorem nodup_keys_put (key : String) (value : α) {entries : Entries α}
    (h : (keys entries).Nodup) : (keys (put key value entries)).Nodup := by
  induction entries with
  | nil => simp [keys]
  | cons entry rest ih =>
      obtain ⟨k, v⟩ := entry
      rw [keys_cons, List.nodup_cons] at h
      by_cases hk : k = key
      · subst hk
        simpa [put_cons, keys_cons] using h
      · rw [put_cons, if_neg hk, keys_cons, List.nodup_cons, mem_keys_put]
        exact ⟨fun hmem => hmem.elim hk h.1, ih h.2⟩

theorem mem_keys_iff {key : String} {entries : Entries α} :
    key ∈ keys entries ↔ ∃ value, get? key entries = some value := by
  induction entries with
  | nil => simp [keys]
  | cons entry rest ih =>
      obtain ⟨k, v⟩ := entry
      rw [keys_cons, List.mem_cons, get?_cons]
      by_cases hk : k = key
      · simp [hk]
      · simp [hk, ih, Ne.symm hk]

/-- Where names are distinct, every entry is found under its name. -/
theorem get?_eq_some_iff {key : String} {value : α} {entries : Entries α}
    (h : (keys entries).Nodup) : get? key entries = some value ↔ (key, value) ∈ entries := by
  induction entries with
  | nil => simp
  | cons entry rest ih =>
      obtain ⟨k, v⟩ := entry
      rw [keys_cons, List.nodup_cons] at h
      by_cases hk : k = key
      · subst hk
        have hmem : (k, value) ∉ rest := fun hrest => h.1 (List.mem_map.mpr ⟨_, hrest, rfl⟩)
        simp [get?_cons, hmem, eq_comm]
      · simp [get?_cons, hk, ih h.2, Ne.symm hk]

theorem get?_putAll_eq_some {key : String} {value : α} {entries added : Entries α}
    (h : get? key (putAll entries added) = some value) :
    (key, value) ∈ added ∨ get? key entries = some value := by
  induction added generalizing entries with
  | nil => exact Or.inr h
  | cons entry rest ih =>
      obtain ⟨k, v⟩ := entry
      cases ih h with
      | inl hmem => exact Or.inl (List.mem_cons_of_mem _ hmem)
      | inr hget =>
          rw [get?_put] at hget
          by_cases hk : k = key
          · rw [if_pos hk, Option.some.injEq] at hget
            rw [← hk, ← hget]
            exact Or.inl List.mem_cons_self
          · rw [if_neg hk] at hget
            exact Or.inr hget

end Entries
end NetworkPlan
