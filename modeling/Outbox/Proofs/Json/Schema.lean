import Mathlib.Data.List.Forall2
import Mathlib.Logic.Relation
import Outbox.Proofs.Json.Fields
import Outbox.Proofs.Json.Values

/-!
# Schemas

A `Schema` says which documents a reader takes: plain values of some kind, or records with
fields of given names and kinds. A record may leave out fields (`Schema.Accepts`), and may be
rearranged in many ways: its fields can change places, fields it does not have can be put
in, and instead of an object there can be an array. The same holds for the records in it
(`Schema.Rearranged`).

A reader that a schema governs takes just those documents, and does not notice when one is
rearranged (`Schema.Governs`). This is proved for the readers of plain values, and for
records with fields whose readers are governed (`Schema.governs_record`).
-/

namespace Outbox.Json

variable {σ α : Type}

/-- The kinds of values. -/
inductive Schema where
  | truth
  | count (limit : Nat)
  | double
  | text
  | optionalText
  | record (entries : List (String × Schema))

namespace Schema

/-- The names of the fields of a record. -/
abbrev names (entries : List (String × Schema)) : List String := entries.map (·.1)

/-- The document is one of the schema. A record gives each field once at most. -/
inductive Accepts : Schema → Document → Prop
  | truth {d : Document} {b : Bool} : d.DenotesTruth b → Accepts .truth d
  | count {limit : Nat} {d : Document} {n : Nat} : d.DenotesCount limit n →
      Accepts (.count limit) d
  | double {d : Document} {x : Float} : d.DenotesDouble x → Accepts .double d
  | text {d : Document} {t : String} : d.DenotesText t → Accepts .text d
  | optionalText {d : Document} {t : Option String} : d.DenotesOptionalText t →
      Accepts .optionalText d
  | record {entries : List (String × Schema)} {d : Document} : d.HasForm (names entries) →
      (∀ e ∈ entries, (d.given (names entries) e.1).length ≤ 1) →
      (∀ e ∈ entries, ∀ v ∈ d.given (names entries) e.1, Accepts e.2 v) →
      Accepts (.record entries) d

/-- One document becomes the other by a change that makes no difference. -/
inductive Rearranged : Schema → Document → Document → Prop
  /-- The members of an object change places. -/
  | permuted {entries : List (String × Schema)} {ms ms' : List (Spelling × Document)} :
      ms.Perm ms' → Rearranged (.record entries) (.object ms) (.object ms')
  /-- A member with any value is put in for no field of the record. -/
  | extended {entries : List (String × Schema)} {ms ms' : List (Spelling × Document)}
      {k : Spelling} {name : String} {d : Document} : Spelling.string? k = some name →
      name ∉ names entries →
      Rearranged (.record entries) (.object (ms ++ ms')) (.object (ms ++ (k, d) :: ms'))
  /-- An object gives its members in the order of the fields, of which it has the first ones. -/
  | listed {entries : List (String × Schema)} {ms : List (Spelling × Document)} :
      ms.map (Spelling.string? ·.1) = ((names entries).take ms.length).map some →
      Rearranged (.record entries) (.object ms) (.array (ms.map (·.2)))
  /-- The value of a field is rearranged, given by name. -/
  | member {entries : List (String × Schema)} {ms ms' : List (Spelling × Document)}
      {k : Spelling} {name : String} {schema : Schema} {d d' : Document} :
      Spelling.string? k = some name → (name, schema) ∈ entries → Rearranged schema d d' →
      Rearranged (.record entries) (.object (ms ++ (k, d) :: ms'))
        (.object (ms ++ (k, d') :: ms'))
  /-- The value of a field is rearranged, given by its place. -/
  | item {entries : List (String × Schema)} {ds ds' : List Document} {name : String}
      {schema : Schema} {d d' : Document} : entries[ds.length]? = some (name, schema) →
      Rearranged schema d d' →
      Rearranged (.record entries) (.array (ds ++ d :: ds')) (.array (ds ++ d' :: ds'))

/-- The reader takes the documents of the schema, and does not notice rearrangements. -/
structure Governs (schema : Schema) (read : Document → Option α) : Prop where
  /-- It takes the documents of the schema, -/
  isSome_iff : ∀ d, (read d).isSome ↔ schema.Accepts d
  /-- and does not notice rearrangements. -/
  eq_of_rearranged : ∀ d d', schema.Rearranged d d' → read d = read d'

/-! ## Plain values -/

/-- A kind of value that is no record cannot be rearranged. -/
theorem governs_of_iff {schema : Schema} {read : Document → Option α}
    {Denotes : Document → α → Prop} (hread : ∀ d x, read d = some x ↔ Denotes d x)
    (haccepts : ∀ d, schema.Accepts d ↔ ∃ x, Denotes d x)
    (hplain : ∀ d d', ¬schema.Rearranged d d') : schema.Governs read where
  isSome_iff d := by simp only [Option.isSome_iff_exists, hread, haccepts]
  eq_of_rearranged d d' h := absurd h (hplain d d')

/-- The reader of truth values is governed by their schema. -/
theorem governs_truth : truth.Governs Document.bool? :=
  governs_of_iff (fun _ _ => Document.bool?_eq_some_iff)
    (fun _ => ⟨fun (.truth h) => ⟨_, h⟩, fun ⟨_, h⟩ => .truth h⟩) nofun

/-- The reader of counts is governed by their schema. -/
theorem governs_count (limit : Nat) : (count limit).Governs (Document.upTo? limit) :=
  governs_of_iff (fun _ _ => Document.upTo?_eq_some_iff)
    (fun _ => ⟨fun (.count h) => ⟨_, h⟩, fun ⟨_, h⟩ => .count h⟩) nofun

/-- The reader of doubles is governed by their schema. -/
theorem governs_double : double.Governs Document.float? :=
  governs_of_iff (fun _ _ => Document.float?_eq_some_iff)
    (fun _ => ⟨fun (.double h) => ⟨_, h⟩, fun ⟨_, h⟩ => .double h⟩) nofun

/-- The reader of texts is governed by their schema. -/
theorem governs_text : text.Governs Document.text? :=
  governs_of_iff (fun _ _ => Document.text?_eq_some_iff)
    (fun _ => ⟨fun (.text h) => ⟨_, h⟩, fun ⟨_, h⟩ => .text h⟩) nofun

/-- The reader of texts that may be missing is governed by their schema. -/
theorem governs_optionalText : optionalText.Governs Document.optionalText? :=
  governs_of_iff (fun _ _ => Document.optionalText?_eq_some_iff)
    (fun _ => ⟨fun (.optionalText h) => ⟨_, h⟩, fun ⟨_, h⟩ => .optionalText h⟩) nofun

/-! ## Records -/

/-- The field is of a kind, and has its name. -/
structure Describes (e : String × Schema) (f : Field σ) : Prop where
  name : f.name = e.1
  isSome_iff : ∀ d s, (f.put d s).isSome ↔ e.2.Accepts d
  eq_of_rearranged : ∀ d d', e.2.Rearranged d d' → ∀ s, f.put d s = f.put d' s

/-- A field with a governed reader is described by its name and schema. -/
theorem Governs.describes {schema : Schema} {read : Document → Option α}
    (h : schema.Governs read) (name : String) (set : σ → α → σ) :
    Describes (name, schema) (Field.of name read set) where
  name := rfl
  isSome_iff d s := by rw [Field.of, Option.isSome_map, h.isSome_iff]
  eq_of_rearranged d d' hd s := congrArg (Option.map (set s)) (h.eq_of_rearranged d d' hd)

variable {entries : List (String × Schema)} {fields : List (Field σ)}

/-- The fields are those of the entries, one for each. -/
abbrev Matches (entries : List (String × Schema)) (fields : List (Field σ)) : Prop :=
  List.Forall₂ Describes entries fields

/-- Fields have the names of the entries that match them. -/
theorem names_eq (h : Matches entries fields) : Field.names fields = names entries := by
  induction h with
  | nil => rfl
  | cons hd _ ih => exact congrArg₂ List.cons hd.name ih

/-- The names of the entries are distinct when those of the fields are. -/
theorem nodup_names (h : Matches entries fields) (hd : Field.Distinct fields) :
    (names entries).Nodup := by
  rw [← names_eq h]
  exact hd.nodup

/-- For each field there is an entry that describes it. -/
theorem exists_entry (h : Matches entries fields) {f : Field σ} (hf : f ∈ fields) :
    ∃ e ∈ entries, Describes e f := by
  induction h with
  | nil => cases hf
  | cons hd _ ih =>
    rcases List.mem_cons.1 hf with rfl | hf
    · exact ⟨_, List.mem_cons_self, hd⟩
    · obtain ⟨e, he, hd⟩ := ih hf
      exact ⟨e, List.mem_cons_of_mem _ he, hd⟩

/-- The fields can be filled when each has at most one value, of the kind its entry says. -/
theorem isSome_fill (h : Matches entries fields) (values : String → List Document) (s : σ) :
    (Field.fill values fields s).isSome ↔
      ∀ e ∈ entries, (values e.1).length ≤ 1 ∧ ∀ v ∈ values e.1, e.2.Accepts v := by
  induction h generalizing s with
  | nil => simp [Field.fill, Field.each]
  | @cons e f entries fields hd _ ih =>
    have hfirst : (f.take s (values e.1)).isSome ↔
        (values e.1).length ≤ 1 ∧ ∀ v ∈ values e.1, e.2.Accepts v :=
      Field.isSome_take hd.isSome_iff
    have hfill : Field.fill values (f :: fields) s =
        (f.take s (values e.1)).bind (Field.fill values fields) := by
      rw [← hd.name]
      rfl
    rw [List.forall_mem_cons, ← hfirst, hfill]
    -- for the other fields it does not matter what the first one has become
    cases f.take s (values e.1) with
    | none => simp
    | some s =>
      simp only [Option.bind_some, ih s, Option.isSome_some, true_and]

/-- A record is read just when its schema accepts the document. -/
theorem isSome_read (h : Matches entries fields) (hd : Field.Distinct fields) (s : σ)
    (d : Document) : (Field.read fields s d).isSome ↔ (record entries).Accepts d := by
  by_cases hform : d.HasForm (names entries)
  · rw [Field.read_eq_fill hd (by rwa [names_eq h]), names_eq h, isSome_fill h]
    exact ⟨fun hv => .record hform (fun e he => (hv e he).1) fun e he => (hv e he).2,
      fun (.record _ hone hv) e he => ⟨hone e he, hv e he⟩⟩
  · rw [Field.read_eq_none (by rwa [names_eq h])]
    exact iff_of_false nofun fun (.record h _ _) => hform h

/-! ### Rearranged records -/

/-- What a field gets from an object does not depend on the order of its members. -/
theorem take_of_perm (f : Field σ) (s : σ) (name : String) {ms ms' : List (Spelling × Document)}
    (h : ms.Perm ms') : f.take s (valuesFor name ms) = f.take s (valuesFor name ms') :=
  Field.take_perm (h.filterMap _)

/-- The values for a name are those in the first members, then those in the others. -/
theorem valuesFor_append (name : String) (ms ms' : List (Spelling × Document)) :
    valuesFor name (ms ++ ms') = valuesFor name ms ++ valuesFor name ms' :=
  List.filterMap_append

/-- An object that gives its members in the order of the fields gives for each field what
    the array of their values does. -/
theorem valuesFor_listed {ns : List String} (hns : ns.Nodup) {ms : List (Spelling × Document)}
    (h : ms.map (Spelling.string? ·.1) = (ns.take ms.length).map some) (name : String) :
    valuesFor name ms = (ms.map (·.2))[ns.idxOf name]?.toList := by
  -- each member takes the name that is next in the list
  induction ms generalizing ns with
  | nil => rfl
  | cons m ms ih =>
    obtain ⟨k, d⟩ := m
    rcases ns with - | ⟨n, ns⟩
    · simp at h
    · simp only [List.map_cons, List.length_cons, List.take_succ_cons, List.cons.injEq] at h
      obtain ⟨hk, h⟩ := h
      rw [List.nodup_cons] at hns
      have hlen : ms.length ≤ ns.length := by
        have hmin := congrArg List.length h
        simp only [List.length_map, List.length_take] at hmin
        omega
      by_cases hn : n = name
      · -- the name does not come again
        subst hn
        rw [valuesFor_cons_of_eq hk, ih hns.2 h, List.idxOf_cons_self,
          List.idxOf_of_notMem hns.1]
        simp [hlen]
      · rw [valuesFor_cons_of_ne hk (Ne.symm hn), ih hns.2 h, List.idxOf_cons_ne _ hn,
          List.map_cons, List.getElem?_cons_succ]

/-- Members listed in the order of the fields have the form of a record, and so have their
    values alone. -/
theorem hasForm_listed {ns : List String} {ms : List (Spelling × Document)}
    (h : ms.map (Spelling.string? ·.1) = (ns.take ms.length).map some) :
    (Document.object ms).HasForm ns ∧ (Document.array (ms.map (·.2))).HasForm ns := by
  constructor
  · intro m hm
    have hname : Spelling.string? m.1 ∈ ms.map (Spelling.string? ·.1) := List.mem_map_of_mem hm
    rw [h] at hname
    obtain ⟨name, -, hname⟩ := List.mem_map.1 hname
    exact ⟨name, hname.symm⟩
  · have hlen := congrArg List.length h
    simp only [List.length_map, List.length_take] at hlen
    simp only [Document.HasForm, List.length_map]
    omega

/-- A field is of the kind that the record has for its name. -/
theorem describes_of_mem (h : Matches entries fields) (hd : Field.Distinct fields) {f : Field σ}
    (hf : f ∈ fields) {schema : Schema} (he : (f.name, schema) ∈ entries) :
    Describes (f.name, schema) f := by
  obtain ⟨e, he', hdesc⟩ := exists_entry h hf
  rwa [List.inj_on_of_nodup_map (nodup_names h hd) he he' hdesc.name]

variable {f : Field σ} {name : String} {schema : Schema} {d d' : Document} {k : Spelling}
  {ms ms' : List (Spelling × Document)} {ds ds' : List Document}

/-- A member with a name that no field has changes nothing for any field. -/
theorem take_of_extended (hk : Spelling.string? k = some name) (hf : f.name ≠ name) (s : σ) :
    f.take s (valuesFor f.name (ms ++ ms')) =
      f.take s (valuesFor f.name (ms ++ (k, d) :: ms')) := by
  rw [valuesFor_append, valuesFor_append, valuesFor_cons_of_ne hk hf]

/-- To rearrange the value of a member changes nothing for any field. -/
theorem take_of_member (h : Matches entries fields) (hd : Field.Distinct fields)
    (he : (name, schema) ∈ entries) (hr : schema.Rearranged d d')
    (hk : Spelling.string? k = some name) (hf : f ∈ fields) (s : σ) :
    f.take s (valuesFor f.name (ms ++ (k, d) :: ms')) =
      f.take s (valuesFor f.name (ms ++ (k, d') :: ms')) := by
  rw [valuesFor_append, valuesFor_append]
  by_cases hname : f.name = name
  · subst hname
    rw [valuesFor_cons_of_eq hk, valuesFor_cons_of_eq hk]
    exact Field.take_append_cons ((describes_of_mem h hd hf he).eq_of_rearranged d d' hr) _ _
  · rw [valuesFor_cons_of_ne hk hname, valuesFor_cons_of_ne hk hname]

/-- To rearrange an item of an array changes nothing for any field. -/
theorem take_of_item (h : Matches entries fields) (hd : Field.Distinct fields)
    (he : entries[ds.length]? = some (name, schema)) (hr : schema.Rearranged d d')
    (hf : f ∈ fields) (s : σ) :
    f.take s (ds ++ d :: ds')[(names entries).idxOf f.name]?.toList =
      f.take s (ds ++ d' :: ds')[(names entries).idxOf f.name]?.toList := by
  by_cases hplace : (names entries).idxOf f.name = ds.length
  · have hmem : f.name ∈ names entries := names_eq h ▸ List.mem_map_of_mem hf
    have hname : (names entries)[ds.length]? = some f.name := hplace ▸ List.getElem?_idxOf hmem
    rw [List.getElem?_map, he] at hname
    obtain rfl : name = f.name := by simpa using hname
    have hput := (describes_of_mem h hd hf (List.mem_of_getElem? he)).eq_of_rearranged d d' hr s
    rw [hplace]
    simpa [Field.take] using hput
  · -- both arrays have the same items in all other places
    rw [List.getElem?_append, List.getElem?_append]
    split
    · rfl
    · obtain ⟨i, hi⟩ : ∃ i, (names entries).idxOf f.name - ds.length = i + 1 :=
        ⟨(names entries).idxOf f.name - ds.length - 1, by omega⟩
      rw [hi, List.getElem?_cons_succ, List.getElem?_cons_succ]

/-- A record reads the same when the document is rearranged. -/
theorem read_of_rearranged (h : Matches entries fields) (hd : Field.Distinct fields) (s : σ)
    (hr : (record entries).Rearranged d d') : Field.read fields s d = Field.read fields s d' := by
  have hnames := names_eq h
  -- in each case it is enough to look at what a single field gets
  cases hr with
  | permuted hp =>
    refine Field.read_congr hd ?_ (fun f _ s => ?_) s
    · simp only [Document.HasForm, hp.mem_iff]
    · exact take_of_perm f s f.name hp
  | extended hk hname =>
    refine Field.read_congr hd ?_ (fun f hf s => ?_) s
    · simp [Document.HasForm, or_imp, forall_and, hk]
    · exact take_of_extended hk (fun h => hname (hnames ▸ h ▸ List.mem_map_of_mem hf)) s
  | listed hms =>
    rw [← hnames] at hms
    refine Field.read_congr hd ?_ (fun f _ s => ?_) s
    · exact iff_of_true (hasForm_listed hms).1 (hasForm_listed hms).2
    · exact congrArg (f.take s) (valuesFor_listed hd.nodup hms f.name)
  | member hk he hr =>
    refine Field.read_congr hd ?_ (fun f hf s => ?_) s
    · simp [Document.HasForm, or_imp, forall_and]
    · exact take_of_member h hd he hr hk hf s
  | item he hr =>
    refine Field.read_congr hd ?_ (fun f hf s => ?_) s
    · simp [Document.HasForm]
    · rw [hnames]
      exact take_of_item h hd he hr hf s

/-- A record of fields with governed readers is governed. -/
theorem governs_record (h : Matches entries fields) (hd : Field.Distinct fields) (s : σ) :
    (record entries).Governs (Field.read fields s) where
  isSome_iff := isSome_read h hd s
  eq_of_rearranged _ _ hr := read_of_rearranged h hd s hr

end Schema

end Outbox.Json
