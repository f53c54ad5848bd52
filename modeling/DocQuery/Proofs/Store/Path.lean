import DocQuery.Store.Path

/-!
Paths and their keys. The keys are what stands between the dots, and a path leads where its keys
lead, each looked up in the document found so far, as long as there are not too many of them.
-/
namespace DocQuery

namespace Text

theorem splitList_eq_splitOn (separator : Char) (cs : List Char) :
    splitList separator cs = cs.splitOn separator := by
  induction cs with
  | nil => rfl
  | cons c cs ih =>
    rw [splitList, ih, List.splitOn_cons_eq_if_modifyHead]
    by_cases h : c = separator
    · simp [h]
    · simp only [h, if_false, beq_eq_false_iff_ne.mpr h, Bool.false_eq_true]
      cases hparts : cs.splitOn separator with
      | nil => exact absurd hparts (List.splitOn_ne_nil separator cs)
      | cons part parts => rfl

theorem splitList_of_not_mem {separator : Char} {cs : List Char} (h : separator ∉ cs) :
    splitList separator cs = [cs] := by
  induction cs with
  | nil => rfl
  | cons c cs ih =>
    rw [List.mem_cons, not_or] at h
    rw [splitList, if_neg (Ne.symm h.1), ih h.2]

theorem not_mem_of_mem_splitList {separator : Char} {cs part : List Char}
    (h : part ∈ splitList separator cs) : separator ∉ part := by
  induction cs generalizing part with
  | nil =>
    rw [splitList, List.mem_singleton] at h
    simp [h]
  | cons c cs ih =>
    rw [splitList] at h
    split at h
    next =>
      rcases List.mem_cons.mp h with rfl | h
      · simp
      · exact ih h
    next hc =>
      split at h
      next =>
        rw [List.mem_singleton] at h
        simpa [h] using Ne.symm hc
      next first parts hsplit =>
        rw [hsplit] at ih
        rcases List.mem_cons.mp h with rfl | h
        · have hfirst : separator ∉ first := ih (by simp)
          simp [hfirst, Ne.symm hc]
        · exact ih (by simp [h])

end Text

namespace Path

/-- The keys of a path: texts without a dot that make up the path with dots between them. -/
structure HasKeys (path : String) (keys : List String) : Prop where
  nonempty : keys ≠ []
  noDot : ∀ key ∈ keys, '.' ∉ key.toList
  joined : ".".intercalate keys = path

variable {path : String} {keys : List String}

theorem keys_eq (path : String) :
    Path.keys path = (path.toList.splitOn '.').map String.ofList := by
  rw [Path.keys, Text.split, Text.splitList_eq_splitOn]

theorem keys_of_not_mem (h : '.' ∉ path.toList) : Path.keys path = [path] := by
  rw [Path.keys, Text.split, Text.splitList_of_not_mem h, List.map_singleton, String.ofList_toList]

theorem hasKeys_keys (path : String) : HasKeys path (Path.keys path) where
  nonempty := by
    rw [keys_eq, ne_eq, List.map_eq_nil_iff]
    exact List.splitOn_ne_nil _ _
  noDot key hkey := by
    rw [Path.keys, Text.split, List.mem_map] at hkey
    obtain ⟨part, hpart, rfl⟩ := hkey
    rw [String.toList_ofList]
    exact Text.not_mem_of_mem_splitList hpart
  joined := by
    have hparts : ((path.toList.splitOn '.').map String.ofList).map String.toList
        = path.toList.splitOn '.' := by simp [Function.comp_def]
    have hdot : ".".toList = ['.'] := rfl
    rw [← String.toList_inj, String.toList_intercalate, keys_eq, hparts, hdot,
      List.intercalate_splitOn]

theorem HasKeys.keys_eq (h : HasKeys path keys) : Path.keys path = keys := by
  have hdot : ".".toList = ['.'] := rfl
  have hparts : (keys.map String.toList).map String.ofList = keys := by simp [Function.comp_def]
  have hno : ∀ part ∈ keys.map String.toList, '.' ∉ part := by
    intro part hpart
    obtain ⟨key, hkey, rfl⟩ := List.mem_map.mp hpart
    exact h.noDot key hkey
  have hne : keys.map String.toList ≠ [] := by simpa using h.nonempty
  rw [Path.keys_eq, ← h.joined, String.toList_intercalate, hdot,
    List.splitOn_intercalate '.' hno hne, hparts]

/-- A path has one list of keys, which is found by splitting it. -/
theorem hasKeys_iff : HasKeys path keys ↔ keys = Path.keys path := by
  constructor
  · exact fun h => h.keys_eq.symm
  · rintro rfl
    exact hasKeys_keys path

theorem HasKeys.ne_empty (h : HasKeys path keys) (hne : keys ≠ [""]) : path ≠ "" := by
  rintro rfl
  exact hne (h.keys_eq.symm.trans rfl)

end Path

namespace Value

/-- The keys lead from a value to another: each is looked up in the document found so far. -/
inductive Leads : Value → List String → Value → Prop where
  | here (v : Value) : Leads v [] v
  | into {d : Document} {key : String} {keys : List String} {v w : Value}
    (hget : d.get? key = some v) (hrest : Leads v keys w) : Leads (.document d) (key :: keys) w

/-- The keys do not lead on: one is missing, or there is no document to look it up in. -/
inductive Stops : Value → List String → Prop where
  | missing {d : Document} {key : String} {keys : List String} (hget : d.get? key = none) :
    Stops (.document d) (key :: keys)
  | noDocument {v : Value} {key : String} {keys : List String} (hv : ∀ d, v ≠ .document d) :
    Stops v (key :: keys)
  | later {d : Document} {key : String} {keys : List String} {v : Value}
    (hget : d.get? key = some v) (hrest : Stops v keys) : Stops (.document d) (key :: keys)

variable {v w : Value} {key : String} {keys : List String}

theorem leads_nil_iff : Leads v [] w ↔ v = w := by
  constructor
  · intro h
    cases h
    rfl
  · rintro rfl
    exact .here v

theorem leads_cons_iff :
    Leads v (key :: keys) w ↔ ∃ u, v.under? key = some u ∧ Leads u keys w := by
  constructor
  · intro h
    cases h with
    | into hget hrest => exact ⟨_, hget, hrest⟩
  · rintro ⟨u, hu, hrest⟩
    cases v with
    | document d => exact .into hu hrest
    | _ => cases hu

theorem not_stops_nil : ¬ Stops v [] := nofun

theorem stops_cons_iff :
    Stops v (key :: keys) ↔ ∀ u, v.under? key = some u → Stops u keys := by
  constructor
  · intro h u hu
    cases h with
    | missing hget => simp [under?, hget] at hu
    | noDocument hv =>
      cases v with
      | document d => exact absurd rfl (hv d)
      | _ => cases hu
    | later hget hrest =>
      rw [under?, hget, Option.some.injEq] at hu
      rwa [← hu]
  · intro h
    cases v with
    | document d =>
      cases hget : Document.get? d key with
      | none => exact .missing hget
      | some u => exact .later hget (h u hget)
    | _ => exact .noDocument nofun

/-- Keys stop just where they lead nowhere. -/
theorem stops_iff : Stops v keys ↔ ∀ w, ¬ Leads v keys w := by
  induction keys generalizing v with
  | nil => simp [not_stops_nil, leads_nil_iff]
  | cons key keys ih =>
    simp only [stops_cons_iff, leads_cons_iff, ih]
    grind

/-- The depth is that of the last key at most, so it is enough to count the keys. -/
theorem follow?_eq_some_iff {depth : Nat} (h : depth ≤ Path.maxDepth) :
    v.follow? depth keys = some w
      ↔ depth + keys.length ≤ Path.maxDepth ∧ Leads v keys w := by
  induction keys generalizing v depth with
  | nil => simp [follow?, leads_nil_iff, h]
  | cons key keys ih =>
    rw [follow?, leads_cons_iff, List.length_cons]
    by_cases hdepth : Path.maxDepth ≤ depth
    · have hlong : ¬ depth + (keys.length + 1) ≤ Path.maxDepth := by omega
      simp [hdepth, hlong]
    · have hnext : depth + 1 ≤ Path.maxDepth := by omega
      have hlength : depth + 1 + keys.length = depth + (keys.length + 1) := by omega
      simp only [hdepth, if_false, Option.bind_eq_some_iff, ih hnext, hlength]
      grind

end Value

namespace Document

variable {d : Document} {path : String} {keys : List String} {v : Value}

/-- A path leads where its keys lead, if there are not too many. -/
theorem at?_eq_some_iff (hne : path ≠ "") : d.at? path = some v
    ↔ (Path.keys path).length ≤ Path.maxDepth + 1
      ∧ (Value.document d).Leads (Path.keys path) v := by
  rw [at?, if_neg hne]
  cases hkeys : Path.keys path with
  | nil => exact absurd hkeys (Path.hasKeys_keys path).nonempty
  | cons key rest =>
    have hfollow (u : Value) : u.follow? 0 rest = some v
        ↔ 0 + rest.length ≤ Path.maxDepth ∧ u.Leads rest v :=
      Value.follow?_eq_some_iff (Nat.zero_le _)
    simp only [Option.bind_eq_some_iff, hfollow, Value.leads_cons_iff, Value.under?,
      List.length_cons, Nat.zero_add, Nat.add_le_add_iff_right]
    grind

theorem at?_eq_none_iff (hne : path ≠ "") : d.at? path = none
    ↔ Path.maxDepth + 1 < (Path.keys path).length
      ∨ (Value.document d).Stops (Path.keys path) := by
  rw [Option.eq_none_iff_forall_ne_some, Value.stops_iff]
  simp only [ne_eq, at?_eq_some_iff hne]
  grind

theorem at?_of_not_mem (hne : path ≠ "") (h : '.' ∉ path.toList) (d : Document) :
    d.at? path = d.get? path := by
  rw [at?, if_neg hne, Path.keys_of_not_mem h]
  simp only [Value.follow?, Option.bind_fun_some]

end Document

end DocQuery
