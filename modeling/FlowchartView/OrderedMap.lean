import FlowchartView.Distinct

namespace FlowchartView

structure OrderedMap (κ β : Type) where
  entries : List (κ × β)
  nodup_keys : (entries.map Prod.fst).Nodup

namespace OrderedMap

variable {κ β : Type}

def empty : OrderedMap κ β := ⟨[], .nil⟩

instance : Inhabited (OrderedMap κ β) := ⟨empty⟩

def keys (m : OrderedMap κ β) : List κ := m.entries.map Prod.fst

def values (m : OrderedMap κ β) : List β := m.entries.map Prod.snd

def size (m : OrderedMap κ β) : Nat := m.entries.length

@[simp] theorem keys_empty : (empty : OrderedMap κ β).keys = [] := rfl

def mapValues (f : β → β) (m : OrderedMap κ β) : OrderedMap κ β where
  entries := m.entries.map fun e ↦ (e.1, f e.2)
  nodup_keys := by simpa [List.map_map, Function.comp_def] using m.nodup_keys

@[simp] theorem keys_mapValues (f : β → β) (m : OrderedMap κ β) :
    (m.mapValues f).keys = m.keys := by
  simp [keys, mapValues, Function.comp_def]

variable [DecidableEq κ]

def lookUp (k : κ) : List (κ × β) → Option β
  | [] => none
  | e :: es => if e.1 = k then some e.2 else lookUp k es

/-- Overwrites the value of `k` where it stands, or adds it at the end. -/
def put (k : κ) (v : β) : List (κ × β) → List (κ × β)
  | [] => [(k, v)]
  | e :: es => if e.1 = k then (k, v) :: es else e :: put k v es

theorem keys_put (k : κ) (v : β) (es : List (κ × β)) :
    (put k v es).map Prod.fst =
      if k ∈ es.map Prod.fst then es.map Prod.fst else es.map Prod.fst ++ [k] := by
  induction es with
  | nil => simp [put]
  | cons e es ih =>
    by_cases h : e.1 = k
    · simp [put, h]
    · simp only [put, h, if_false, List.map_cons, ih, List.mem_cons, Ne.symm h, false_or]
      split <;> simp

theorem lookUp_put (k j : κ) (v : β) (es : List (κ × β)) :
    lookUp j (put k v es) = if k = j then some v else lookUp j es := by
  induction es with
  | nil => simp [put, lookUp]
  | cons e es ih =>
    by_cases h : e.1 = k
    · by_cases hj : k = j <;> simp [put, lookUp, h, hj]
    · by_cases hj : e.1 = j
      · have hk : ¬k = j := fun hk ↦ h (hj.trans hk.symm)
        simp [put, lookUp, hj, hk, Ne.symm hk]
      · simp [put, lookUp, h, hj, ih]

theorem lookUp_isSome_iff {k : κ} {es : List (κ × β)} :
    (lookUp k es).isSome ↔ k ∈ es.map Prod.fst := by
  induction es with
  | nil => simp [lookUp]
  | cons e es ih =>
    by_cases h : e.1 = k
    · simp [lookUp, h]
    · simp [lookUp, h, ih, Ne.symm h]

theorem lookUp_map (f : β → β) (k : κ) (es : List (κ × β)) :
    lookUp k (es.map fun e ↦ (e.1, f e.2)) = (lookUp k es).map f := by
  induction es with
  | nil => rfl
  | cons e es ih =>
    rw [List.map_cons, lookUp, lookUp, ih]
    split <;> rfl

def find? (m : OrderedMap κ β) (k : κ) : Option β := lookUp k m.entries

def contains (m : OrderedMap κ β) (k : κ) : Bool := (m.find? k).isSome

def insert (m : OrderedMap κ β) (k : κ) (v : β) : OrderedMap κ β where
  entries := put k v m.entries
  nodup_keys := by
    rw [keys_put]
    split
    · exact m.nodup_keys
    · next h =>
      refine List.nodup_append.2 ⟨m.nodup_keys, by simp, fun a ha b hb hab ↦ h ?_⟩
      rwa [← List.mem_singleton.1 hb, ← hab]

/-- The map of a list of entries; of two entries for a key the later value and the earlier place
win. -/
def ofList (es : List (κ × β)) : OrderedMap κ β := es.foldl (fun m e ↦ m.insert e.1 e.2) empty

def ofKeys (keys : List κ) (v : β) : OrderedMap κ β where
  entries := (distinct keys).map fun k ↦ (k, v)
  nodup_keys := by simpa [Function.comp_def] using nodup_distinct keys

def filter (p : κ → Bool) (m : OrderedMap κ β) : OrderedMap κ β where
  entries := m.entries.filter fun e ↦ p e.1
  nodup_keys := m.nodup_keys.sublist (List.filter_sublist.map _)

/-- Both maps hold the same entries, whatever their order. -/
def sameEntries [DecidableEq β] (m n : OrderedMap κ β) : Bool :=
  decide (m.size = n.size) && m.entries.all fun e ↦ decide (n.find? e.1 = some e.2)

theorem find?_insert (m : OrderedMap κ β) (k j : κ) (v : β) :
    (m.insert k v).find? j = if k = j then some v else m.find? j := lookUp_put k j v m.entries

theorem keys_insert (m : OrderedMap κ β) (k : κ) (v : β) :
    (m.insert k v).keys = if k ∈ m.keys then m.keys else m.keys ++ [k] := keys_put k v m.entries

@[simp] theorem keys_ofKeys (ks : List κ) (v : β) : (ofKeys ks v).keys = distinct ks := by
  simp [keys, ofKeys, Function.comp_def]

theorem contains_iff {m : OrderedMap κ β} {k : κ} : m.contains k ↔ k ∈ m.keys :=
  lookUp_isSome_iff

@[simp] theorem find?_empty (k : κ) : (empty : OrderedMap κ β).find? k = none := rfl

theorem find?_mapValues (f : β → β) (m : OrderedMap κ β) (k : κ) :
    (m.mapValues f).find? k = (m.find? k).map f := lookUp_map f k m.entries

end OrderedMap

end FlowchartView
