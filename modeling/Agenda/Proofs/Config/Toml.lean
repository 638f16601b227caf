import Agenda.Config.Toml.Document
import Mathlib

/-!
# Names in a TOML document

A document gives no name of a table a value twice, whether the table stands in the lines of the document or in braces.
So what a document has for a name is one value.
-/

namespace Agenda.Config.Toml

variable {name : String} {node : Node} {es es' : Entries} {v : Value} {cs rest : List Char}

/-! ### Tables while they are read -/

/-- No table of the node, as far as it can be added to, has a name twice, and no complete value that is a table has. -/
inductive Node.Distinct : Node → Prop
  | closed {v : Value} : (v.entries.map (·.1)).Nodup → Distinct (.closed v)
  | table {origin : Origin} {es : Entries} : (es.map (·.1)).Nodup → (∀ e ∈ es, Distinct e.2) →
      Distinct (.table origin es)
  | tables {items : List Entries} : (∀ es ∈ items, (es.map (·.1)).Nodup) → (∀ es ∈ items, ∀ e ∈ es, Distinct e.2) →
      Distinct (.tables items)

/-- No name stands twice in the table, nor in the tables that stand in it. -/
structure Distinct (es : Entries) : Prop where
  names : (es.map (·.1)).Nodup
  nodes : ∀ e ∈ es, e.2.Distinct

theorem Distinct.nil : Distinct [] where
  names := List.nodup_nil
  nodes _ h := absurd h List.not_mem_nil

theorem distinct_table_iff {origin : Origin} : (Node.table origin es).Distinct ↔ Distinct es := by
  constructor
  · rintro (_ | ⟨hnames, hnodes⟩)
    exact ⟨hnames, hnodes⟩
  · intro h
    exact .table h.names h.nodes

theorem distinct_tables_iff {items : List Entries} : (Node.tables items).Distinct ↔ ∀ es ∈ items, Distinct es := by
  constructor
  · rintro (_ | _ | ⟨hnames, hnodes⟩) es hes
    exact ⟨hnames es hes, hnodes es hes⟩
  · intro h
    exact .tables (fun es hes => (h es hes).names) fun es hes => (h es hes).nodes

theorem Distinct.find? (hes : Distinct es) (h : find? es name = some node) : node.Distinct := by
  obtain ⟨e, he, rfl⟩ := Option.map_eq_some_iff.mp h
  exact hes.nodes e (List.mem_of_find?_eq_some he)

theorem notMem_of_find?_eq_none (h : find? es name = none) : name ∉ es.map (·.1) := by
  rw [Toml.find?, Option.map_eq_none_iff, List.find?_eq_none] at h
  rw [List.mem_map]
  rintro ⟨e, he, rfl⟩
  exact h e he (beq_self_eq_true e.1)

theorem map_fst_put : (put name node es).map (·.1) =
    if name ∈ es.map (·.1) then es.map (·.1) else es.map (·.1) ++ [name] := by
  induction es with
  | nil => rfl
  | cons e es ih =>
    obtain ⟨n, old⟩ := e
    rw [put]
    by_cases hn : n = name
    · rw [if_pos hn, if_pos (by simp [hn])]
      rfl
    · rw [if_neg hn, List.map_cons, List.map_cons, ih]
      by_cases hmem : name ∈ es.map (·.1)
      · rw [if_pos hmem, if_pos (List.mem_cons_of_mem _ hmem)]
      · have hcons : name ∉ n :: es.map (·.1) := List.not_mem_cons_of_ne_of_not_mem (Ne.symm hn) hmem
        rw [if_neg hmem, if_neg hcons]
        rfl

theorem mem_put {e : String × Node} (h : e ∈ put name node es) : e = (name, node) ∨ e ∈ es := by
  induction es with
  | nil => exact Or.inl (List.mem_singleton.mp h)
  | cons old es ih =>
    obtain ⟨n, old⟩ := old
    rw [put] at h
    split at h
    · rename_i hn
      rcases List.mem_cons.mp h with rfl | h
      · exact Or.inl (by rw [hn])
      · exact Or.inr (List.mem_cons_of_mem _ h)
    · rcases List.mem_cons.mp h with rfl | h
      · exact Or.inr List.mem_cons_self
      · exact (ih h).imp_right (List.mem_cons_of_mem _)

theorem Distinct.put (hes : Distinct es) (hnode : node.Distinct) : Distinct (put name node es) where
  names := by
    rw [map_fst_put]
    split
    · exact hes.names
    · rename_i hname
      rw [← List.concat_eq_append]
      exact hes.names.concat hname
  nodes e he := by
    rcases mem_put he with rfl | he
    · exact hnode
    · exact hes.nodes e he

/-! ### What changes the tables -/

theorem Distinct.putTable {origin : Origin} {inner : Option Entries} (hes : Distinct es)
    (hinner : ∀ new, inner = some new → Distinct new)
    (h : (inner.map fun new => Toml.put name (.table origin new) es) = some es') : Distinct es' := by
  obtain ⟨new, hnew, rfl⟩ := Option.map_eq_some_iff.mp h
  exact hes.put (distinct_table_iff.mpr (hinner new hnew))

theorem Distinct.putLast {last : Entries} {others : List Entries} {inner : Option Entries} (hes : Distinct es)
    (hold : Toml.find? es name = some (.tables (last :: others)))
    (hinner : ∀ new, Distinct last → inner = some new → Distinct new)
    (h : (inner.map fun new => Toml.put name (.tables (new :: others)) es) = some es') : Distinct es' := by
  obtain ⟨hlast, hothers⟩ := List.forall_mem_cons.mp (distinct_tables_iff.mp (hes.find? hold))
  obtain ⟨new, hnew, rfl⟩ := Option.map_eq_some_iff.mp h
  exact hes.put (distinct_tables_iff.mpr (List.forall_mem_cons.mpr ⟨hinner new hlast hnew, hothers⟩))

/-- What keeps names apart in a table keeps them apart in the table around it. -/
theorem Distinct.through {change : Entries → Option Entries} {way : List String}
    (hchange : ∀ es es', Distinct es → change es = some es' → Distinct es') (hes : Distinct es)
    (h : through change way es = some es') : Distinct es' := by
  induction way generalizing es es' with
  | nil => exact hchange es es' hes h
  | cons name way ih =>
    rw [Toml.through] at h
    split at h
    · exact hes.putTable (fun _ => ih .nil) h
    · rename_i hold
      exact hes.putTable (fun _ => ih (distinct_table_iff.mp (hes.find? hold))) h
    · rename_i hold
      exact hes.putLast hold (fun _ => ih) h
    · cases h

theorem Distinct.openTable (hes : Distinct es) (h : openTable name es = some es') : Distinct es' := by
  unfold Toml.openTable at h
  split at h
  · cases h
    exact hes.put (distinct_table_iff.mpr .nil)
  · rename_i inner hinner
    cases h
    exact hes.put (distinct_table_iff.mpr (distinct_table_iff.mp (hes.find? hinner)))
  · cases h

theorem Distinct.openRepeated (hes : Distinct es) (h : openRepeated name es = some es') : Distinct es' := by
  unfold Toml.openRepeated at h
  split at h
  · cases h
    exact hes.put (distinct_tables_iff.mpr (List.forall_mem_singleton.mpr .nil))
  · rename_i items hitems
    cases h
    exact hes.put (distinct_tables_iff.mpr (List.forall_mem_cons.mpr ⟨.nil, distinct_tables_iff.mp (hes.find? hitems)⟩))
  · cases h

/-- A name that has no value yet is the only one that gets one. -/
theorem Distinct.assign {names : List String} (hv : (v.entries.map (·.1)).Nodup) (hes : Distinct es)
    (h : assign v names es = some es') : Distinct es' := by
  induction names generalizing es es' with
  | nil => cases h
  | cons name way ih =>
    cases way with
    | nil =>
      rw [Toml.assign] at h
      split at h
      · cases h
      · rename_i hnone
        cases h
        have hname := notMem_of_find?_eq_none (Option.not_isSome_iff_eq_none.mp hnone)
        constructor
        · rw [List.map_append, List.map_singleton, ← List.concat_eq_append]
          exact hes.names.concat hname
        · intro e he
          rcases List.mem_append.mp he with he | he
          · exact hes.nodes e he
          · rw [List.mem_singleton.mp he]
            exact .closed hv
    | cons next way =>
      rw [Toml.assign] at h
      · split at h
        · exact hes.putTable (fun _ => ih .nil) h
        · rename_i hold
          exact hes.putTable (fun _ => ih (distinct_table_iff.mp (hes.find? hold))) h
        · rename_i hold
          split at h
          · cases h
          · exact hes.putTable (fun _ => ih (distinct_table_iff.mp (hes.find? hold))) h
        · rename_i hold
          split at h
          · cases h
          · exact hes.putLast hold (fun _ => ih) h
        · cases h
      · exact List.cons_ne_nil _ _

/-! ### The values of the names -/

theorem map_fst_entriesValue (es : Entries) : (entriesValue es).map (·.1) = es.map (·.1) := by
  induction es with
  | nil => rw [entriesValue]; rfl
  | cons e es ih => rw [entriesValue, List.map_cons, List.map_cons, ih]

theorem mem_entriesValue {name : String} (h : (name, v) ∈ entriesValue es) :
    ∃ node, (name, node) ∈ es ∧ node.value = v := by
  induction es with
  | nil =>
    rw [entriesValue] at h
    cases h
  | cons e es ih =>
    rw [entriesValue] at h
    rcases List.mem_cons.mp h with h | h
    · cases h
      exact ⟨e.2, List.mem_cons_self, rfl⟩
    · obtain ⟨node, hnode, hv⟩ := ih h
      exact ⟨node, List.mem_cons_of_mem _ hnode, hv⟩

theorem Node.Distinct.value (h : node.Distinct) : (node.value.entries.map (·.1)).Nodup := by
  cases h with
  | closed hv =>
    rw [Node.value]
    exact hv
  | table hnames hnodes =>
    rw [Node.value]
    exact (map_fst_entriesValue _).symm ▸ hnames
  | tables hnames hnodes =>
    rw [Node.value]
    exact List.nodup_nil

/-! ### Values -/

theorem entries_readBased? {base : Nat} (h : readBased? base cs = some v) : v.entries = [] := by
  unfold readBased? at h
  split at h
  · obtain ⟨n, -, rfl⟩ := Option.map_eq_some_iff.mp h
    rfl
  · cases h

theorem entries_readUnsigned? {negative : Bool} (h : readUnsigned? negative cs = some v) : v.entries = [] := by
  unfold readUnsigned? at h
  grind [Value.entries]

theorem entries_readSigned? {negative : Bool} (h : readSigned? negative cs = some v) : v.entries = [] := by
  unfold readSigned? at h
  split at h
  · cases h
    rfl
  · split at h
    · cases h
      rfl
    · exact entries_readUnsigned? h

/-- The check of the size that follows every notation of a number lets no table in. -/
theorem entries_of_fits {value : Option Value}
    (h : (match value with
      | some (.int i) => if Number.fitsWord i then some (.int i) else none
      | v => v) = some v)
    (hvalue : ∀ v, value = some v → v.entries = []) : v.entries = [] := by
  split at h
  · split at h
    · cases h
      rfl
    · cases h
  · exact hvalue v h

theorem entries_readNumber? (h : readNumber? cs = some v) : v.entries = [] := by
  unfold readNumber? at h
  split at h
  · exact entries_of_fits h fun _ => entries_readBased?
  · exact entries_of_fits h fun _ => entries_readBased?
  · exact entries_of_fits h fun _ => entries_readBased?
  · exact entries_of_fits h fun _ => entries_readSigned?
  · exact entries_of_fits h fun _ => entries_readSigned?
  · exact entries_of_fits h fun _ => entries_readSigned?

theorem entries_of_word {word : List Char}
    (h : (if word = "true".toList then some (.bool true)
      else if word = "false".toList then some (.bool false)
      else
        match readNumber? word with
        | some v => some v
        | none => (readDateTime? word).map .text) = some v) : v.entries = [] := by
  split at h
  · cases h
    rfl
  · split at h
    · cases h
      rfl
    · split at h
      · rename_i hnumber
        cases h
        exact entries_readNumber? hnumber
      · obtain ⟨s, -, rfl⟩ := Option.map_eq_some_iff.mp h
        rfl

theorem entries_readBare (h : readBare cs = some (v, rest)) : v.entries = [] := by
  unfold readBare at h
  dsimp only at h
  obtain ⟨_, hvalue, h⟩ := Option.map_eq_some_iff.mp h
  cases h
  exact entries_of_word hvalue

theorem distinct_read (n : Nat) :
    (∀ depth cs v rest, readValue depth n cs = some (v, rest) → (v.entries.map (·.1)).Nodup) ∧
      ∀ depth es cs es' rest, Distinct es → readMembers depth n es cs = some (es', rest) → Distinct es' := by
  -- Values and members in braces are read in turn, each with one unit of fuel less; items of lists hold no names.
  induction n with
  | zero =>
    constructor
    · intro depth cs v rest h
      rw [readValue] at h
      cases h
    · intro depth es cs es' rest _ h
      rw [readMembers] at h
      cases h
  | succ n ih =>
    obtain ⟨ihValue, ihMembers⟩ := ih
    constructor
    · intro depth cs v rest h
      unfold readValue at h
      split at h
      · cases h
      · cases h
      · obtain ⟨⟨items, _⟩, -, h⟩ := Option.map_eq_some_iff.mp h
        cases h
        exact List.nodup_nil
      · obtain ⟨⟨es, _⟩, hes, h⟩ := Option.map_eq_some_iff.mp h
        cases h
        exact (map_fst_entriesValue es).symm ▸ (ihMembers _ _ _ _ _ .nil hes).names
      · obtain ⟨⟨s, _⟩, -, h⟩ := Option.map_eq_some_iff.mp h
        cases h
        exact List.nodup_nil
      · obtain ⟨⟨s, _⟩, -, h⟩ := Option.map_eq_some_iff.mp h
        cases h
        exact List.nodup_nil
      · rw [entries_readBare h]
        exact List.nodup_nil
    · intro depth es cs es' rest hes h
      unfold readMembers at h
      split at h
      · cases h
      · cases h
        exact hes
      · split at h
        · cases h
        · split at h
          · cases h
          · rename_i hvalue
            split at h
            · cases h
            · rename_i hassign
              have hnew := hes.assign (ihValue _ _ _ _ hvalue) hassign
              split at h
              · exact ihMembers _ _ _ _ _ hnew h
              · cases h
                exact hnew
              · cases h

/-! ### The document -/

theorem Document.distinct_open? {d d' : Document} {repeated : Bool} {names : List String} (hd : Distinct d.root)
    (h : d.open? repeated names = some d') : Distinct d'.root := by
  unfold open? at h
  split at h
  · cases h
  · obtain ⟨root, hroot, rfl⟩ := Option.map_eq_some_iff.mp h
    refine hd.through (fun es es' hes hchange => ?_) hroot
    cases repeated with
    | true => exact hes.openRepeated hchange
    | false => exact hes.openTable hchange

theorem Document.distinct_assign? {d d' : Document} {names : List String} (hv : (v.entries.map (·.1)).Nodup)
    (hd : Distinct d.root) (h : d.assign? names v = some d') : Distinct d'.root := by
  obtain ⟨root, hroot, rfl⟩ := Option.map_eq_some_iff.mp h
  exact hd.through (fun es es' hes hassign => hes.assign hv hassign) hroot

theorem Document.distinct_readLine? {d d' : Document} (hd : Distinct d.root)
    (h : d.readLine? cs = some (d', rest)) : Distinct d'.root := by
  unfold readLine? at h
  split at h
  · split at h
    · split at h
      · rename_i hopen _
        cases h
        exact distinct_open? hd hopen
      · cases h
    · cases h
  · split at h
    · split at h
      · rename_i hopen _
        cases h
        exact distinct_open? hd hopen
      · cases h
    · cases h
  · split at h
    · cases h
    · split at h
      · cases h
      · rename_i hvalue
        split at h
        · rename_i hassign _
          cases h
          exact distinct_assign? ((distinct_read _).1 _ _ _ _ hvalue) hd hassign
        · cases h

theorem Document.distinct_read? {n : Nat} {d d' : Document} (hd : Distinct d.root)
    (h : Document.read? n d cs = some d') : Distinct d'.root := by
  induction n generalizing d cs with
  | zero => cases h
  | succ n ih =>
    rw [Document.read?] at h
    split at h
    · cases h
    · cases h
      exact hd
    · split at h
      · cases h
      · rename_i hline
        exact ih (distinct_readLine? hd hline) h

/-- In a document that can be read, no name is given twice, at the top or in a table at the top. -/
theorem parse_distinct {text : String} {es : List (String × Value)} (h : parse text = some es) :
    (es.map (·.1)).Nodup ∧ ∀ e ∈ es, (e.2.entries.map (·.1)).Nodup := by
  obtain ⟨d, hd, rfl⟩ := Option.map_eq_some_iff.mp h
  have hdistinct : Distinct d.root := Document.distinct_read? .nil hd
  refine ⟨(map_fst_entriesValue _).symm ▸ hdistinct.names, fun e he => ?_⟩
  obtain ⟨node, hnode, hvalue⟩ := mem_entriesValue he
  exact hvalue ▸ (hdistinct.nodes _ hnode).value

end Agenda.Config.Toml
