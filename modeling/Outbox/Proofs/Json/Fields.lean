import Mathlib.Data.List.Nodup
import Outbox.Json.Fields

/-!
# What a document gives for a field

A record is read member by member, in the order of the document. Here it is put together
field by field, in the order of the fields: each one is replaced by the value that the
document gives for it (`Document.given`), or kept if there is none (`Field.take`).

Both come to the same (`Field.read_eq_fill`), as fields with different names can be replaced
in either order (`Field.Commutes`). What is read thus depends only on the form of the
document and the values it gives for each field (`Field.read_congr`).
-/

namespace Outbox.Json

variable {σ α β : Type}

/-! ## Values -/

/-- The values that members give for a field. -/
def valuesFor (name : String) (ms : List (Spelling × Document)) : List Document :=
  ms.filterMap fun m => if Spelling.string? m.1 = some name then some m.2 else none

namespace Document

/-- The values that a document gives for a field of a record with fields of these names: from
    an object those of the members with the name, and from an array the item in the place
    of the name. -/
def given (names : List String) (name : String) : Document → List Document
  | .object ms => valuesFor name ms
  | .array ds => ds[names.idxOf name]?.toList
  | _ => []

/-- The document has the form of a record with fields of these names: an object whose
    names are all texts, or an array that is not too long. -/
def HasForm (names : List String) : Document → Prop
  | .object ms => ∀ m ∈ ms, ∃ name, Spelling.string? m.1 = some name
  | .array ds => ds.length ≤ names.length
  | _ => False

end Document

/-- A member with the name gives a value for it. -/
theorem valuesFor_cons_of_eq {name : String} {k : Spelling} {d : Document}
    {ms : List (Spelling × Document)} (h : Spelling.string? k = some name) :
    valuesFor name ((k, d) :: ms) = d :: valuesFor name ms := by
  simp [valuesFor, h]

/-- A member with another name does not. -/
theorem valuesFor_cons_of_ne {name name' : String} {k : Spelling} {d : Document}
    {ms : List (Spelling × Document)} (h : Spelling.string? k = some name') (hne : name ≠ name') :
    valuesFor name ((k, d) :: ms) = valuesFor name ms := by
  simp [valuesFor, h, hne.symm]

namespace Field

/-! ## Field by field -/

/-- Replaces the field if there is one value for it, and keeps it if there is none. -/
def take (f : Field σ) (s : σ) : List Document → Option σ
  | [] => some s
  | [d] => f.put d s
  | _ => none

/-- Does something for each field in turn. -/
def each (step : Field σ → σ → Option σ) : List (Field σ) → σ → Option σ
  | [], s => some s
  | f :: fs, s => (step f s).bind (each step fs)

/-- Replaces the fields that there are values for. -/
def fill (values : String → List Document) (fields : List (Field σ)) (s : σ) : Option σ :=
  each (fun f s => f.take s (values f.name)) fields s

/-- Two fields can be replaced in either order. -/
def Commutes (f g : Field σ) : Prop :=
  ∀ d e s, (f.put d s).bind (g.put e) = (g.put e s).bind (f.put d)

theorem Commutes.symm {f g : Field σ} (h : f.Commutes g) : g.Commutes f :=
  fun d e s => (h e d s).symm

/-- Fields commute if their values can be set in either order, whatever they are read from. -/
theorem commutes_of {name name' : String} {read : Document → Option α}
    {read' : Document → Option β} {set : σ → α → σ} {set' : σ → β → σ}
    (h : ∀ s x y, set' (set s x) y = set (set' s y) x) :
    (Field.of name read set).Commutes (Field.of name' read' set') := by
  intro d e s
  cases hx : read d <;> cases hy : read' e <;> simp [Field.of, hx, hy, h]

variable {f g : Field σ} {fs gs : List (Field σ)} {s : σ} {d : Document}
  {step step' : Field σ → σ → Option σ}

/-- A pass over the fields is one over the first of them and one over the others. -/
theorem each_append : each step (fs ++ gs) s = (each step fs s).bind (each step gs) := by
  induction fs generalizing s with
  | nil => rfl
  | cons f fs ih =>
    rw [List.cons_append, each, each, Option.bind_assoc]
    exact congrArg _ (funext fun _ => ih)

/-- Steps that agree on the fields make the same pass. -/
theorem each_congr (h : ∀ f ∈ fs, ∀ s, step f s = step' f s) :
    each step fs s = each step' fs s := by
  induction fs generalizing s with
  | nil => rfl
  | cons f fs ih =>
    rw [List.forall_mem_cons] at h
    rw [each, each, h.1]
    exact congrArg _ (funext fun _ => ih h.2)

/-- A pass of steps that do nothing does nothing. -/
theorem each_eq_some (h : ∀ f ∈ fs, ∀ s, step f s = some s) : each step fs s = some s := by
  induction fs with
  | nil => rfl
  | cons f fs ih =>
    rw [List.forall_mem_cons] at h
    rw [each, h.1, Option.bind_some, ih h.2]

/-- A value that can be put in before or after each single step can be put in before or
    after the pass. -/
theorem bind_each (h : ∀ g ∈ fs, ∀ s, (f.put d s).bind (step g) = (step g s).bind (f.put d)) :
    (f.put d s).bind (each step fs) = (each step fs s).bind (f.put d) := by
  induction fs generalizing s with
  | nil =>
    change (f.put d s).bind some = f.put d s
    rw [Option.bind_fun_some]
  | cons g fs ih =>
    rw [List.forall_mem_cons] at h
    calc
      _ = ((f.put d s).bind (step g)).bind (each step fs) := by rw [Option.bind_assoc]; rfl
      _ = (step g s).bind fun s => (f.put d s).bind (each step fs) := by
        rw [h.1, Option.bind_assoc]
      _ = (step g s).bind fun s => (each step fs s).bind (f.put d) :=
        congrArg _ (funext fun _ => ih h.2)
      _ = _ := by rw [each, Option.bind_assoc]

/-- What is done for one field starts with replacing it, and this can be done first. -/
theorem each_put (hfs : ∀ g ∈ fs, ∀ s, step g s = step' g s)
    (hgs : ∀ g ∈ gs, ∀ s, step g s = step' g s)
    (hf : ∀ s, step f s = (f.put d s).bind (step' f))
    (hc : ∀ g ∈ fs, ∀ s, (f.put d s).bind (step' g) = (step' g s).bind (f.put d)) :
    each step (fs ++ f :: gs) s = (f.put d s).bind (each step' (fs ++ f :: gs)) := by
  have hsplit : each step' (fs ++ f :: gs) =
      fun s => (each step' fs s).bind fun s => (step' f s).bind (each step' gs) :=
    funext fun _ => each_append
  calc
    _ = (each step' fs s).bind fun s => (step f s).bind (each step' gs) := by
      rw [each_append, each_congr hfs]
      refine congrArg _ (funext fun s => ?_)
      exact congrArg _ (funext fun s => each_congr hgs)
    _ = ((each step' fs s).bind (f.put d)).bind fun s => (step' f s).bind (each step' gs) := by
      simp only [hf, Option.bind_assoc]
    _ = ((f.put d s).bind (each step' fs)).bind fun s => (step' f s).bind (each step' gs) := by
      rw [bind_each hc]
    _ = _ := by rw [hsplit, Option.bind_assoc]

/-! ## Objects -/

/-- What remains to be done for a field in these members when some fields were given already.
    Those must not be given again. -/
def takeUnseen (seen : List String) (ms : List (Spelling × Document)) (f : Field σ) (s : σ) :
    Option σ :=
  if f.name ∈ seen then if valuesFor f.name ms = [] then some s else none
  else f.take s (valuesFor f.name ms)

variable {seen : List String} {ms : List (Spelling × Document)} {k : Spelling} {name : String}

/-- A field that commutes with another one does so with all that is taken of the members for
    that one. -/
theorem Commutes.takeUnseen (h : f.Commutes g) (s : σ) :
    (f.put d s).bind (g.takeUnseen seen ms) = (g.takeUnseen seen ms s).bind (f.put d) := by
  unfold Field.takeUnseen
  split
  · split <;> simp
  · rcases valuesFor g.name ms with - | ⟨e, - | ⟨e', es⟩⟩
    · simp [take]
    · exact h d e s
    · simp [take]

/-- A field takes nothing from members of another name. -/
theorem takeUnseen_of_ne (hk : Spelling.string? k = some name) (hf : f.name ≠ name) :
    f.takeUnseen seen ((k, d) :: ms) s = f.takeUnseen seen ms s := by
  rw [takeUnseen, takeUnseen, valuesFor_cons_of_ne hk hf]

/-- That another name was seen does not matter to a field. -/
theorem takeUnseen_cons_of_ne (hf : f.name ≠ name) :
    f.takeUnseen (name :: seen) ms s = f.takeUnseen seen ms s := by
  rw [takeUnseen, takeUnseen]
  simp only [List.mem_cons, hf, false_or]

/-- A field that was seen must not come again. -/
theorem takeUnseen_of_mem (hk : Spelling.string? k = some f.name) (hf : f.name ∈ seen) :
    f.takeUnseen seen ((k, d) :: ms) s = none := by
  rw [takeUnseen, if_pos hf, valuesFor_cons_of_eq hk, if_neg (List.cons_ne_nil _ _)]

/-- A field that was not seen takes the value, and counts as seen from then on. -/
theorem takeUnseen_of_notMem (hk : Spelling.string? k = some f.name) (hf : f.name ∉ seen) :
    f.takeUnseen seen ((k, d) :: ms) s =
      (f.put d s).bind (f.takeUnseen (f.name :: seen) ms) := by
  have hseen (s : σ) : f.takeUnseen (f.name :: seen) ms s =
      if valuesFor f.name ms = [] then some s else none := if_pos List.mem_cons_self
  rw [takeUnseen, if_neg hf, valuesFor_cons_of_eq hk, funext hseen]
  rcases valuesFor f.name ms with - | ⟨e, es⟩ <;> simp [take]

/-- To read the members one by one is to go over the fields, each of which takes what the
    members give for it. -/
theorem readMembers_eq {fields : List (Field σ)} (hnames : (fields.map (·.name)).Nodup)
    (hc : fields.Pairwise Commutes) (seen : List String)
    (hms : ∀ m ∈ ms, ∃ name, Spelling.string? m.1 = some name) (s : σ) :
    readMembers fields seen ms s = each (takeUnseen seen ms) fields s := by
  induction ms generalizing seen s with
  | nil =>
    refine (each_eq_some fun f _ s => ?_).symm
    simp [takeUnseen, valuesFor, take]
  | cons m ms ih =>
    obtain ⟨k, d⟩ := m
    rw [List.forall_mem_cons] at hms
    obtain ⟨⟨name, hk⟩, hms⟩ := hms
    rw [readMembers, hk]
    simp only
    split
    next hf =>
      have hne (g : Field σ) (hg : g ∈ fields) : g.name ≠ name := by
        simpa using List.find?_eq_none.1 hf g hg
      rw [ih seen hms, each_congr fun g hg s => takeUnseen_of_ne hk (hne g hg)]
    next f hf =>
      -- the names of all other fields differ from that of the field which is given
      obtain ⟨hname, fs, gs, rfl, -⟩ := List.find?_eq_some_iff_append.1 hf
      obtain rfl : f.name = name := by simpa using hname
      simp only [List.map_append, List.map_cons, List.nodup_middle, List.nodup_cons,
        List.mem_append, List.mem_map, not_or, not_exists, not_and] at hnames
      obtain ⟨⟨hfs, hgs⟩, -⟩ := hnames
      split
      next hseen =>
        simp only [each_append, each, takeUnseen_of_mem hk hseen, Option.bind_none,
          Option.bind_fun_none]
      next hseen =>
        -- To the other fields it makes no difference that this one is seen.
        have hother (g : Field σ) (hg : g.name ≠ f.name) (s : σ) :
            g.takeUnseen seen ((k, d) :: ms) s = g.takeUnseen (f.name :: seen) ms s := by
          rw [takeUnseen_of_ne hk hg, takeUnseen_cons_of_ne hg]
        rw [each_put (fun g hg => hother g (hfs g hg)) (fun g hg => hother g (hgs g hg))
          (fun s => takeUnseen_of_notMem hk hseen) fun g hg s => ?_]
        · exact congrArg _ (funext fun s => ih _ hms s)
        · exact ((List.pairwise_append.1 hc).2.2 g hg f List.mem_cons_self).symm.takeUnseen s

/-! ## Arrays -/

variable {fields : List (Field σ)} {ds : List Document}

/-- To read the items one by one is to go over the fields, each of which takes the item at
    its own place. -/
theorem readItems_eq (hnames : (fields.map (·.name)).Nodup) (hds : ds.length ≤ fields.length)
    (s : σ) : readItems fields ds s =
      each (fun f s => f.take s ds[(fields.map (·.name)).idxOf f.name]?.toList) fields s := by
  induction fields generalizing ds s with
  | nil =>
    obtain rfl := List.length_eq_zero_iff.1 (Nat.le_zero.1 hds)
    rfl
  | cons f fs ih =>
    rw [List.map_cons, List.nodup_cons] at hnames
    rcases ds with - | ⟨d, ds⟩
    · exact (each_eq_some fun f _ s => by simp [take]).symm
    · -- The places of the other fields are those behind the first.
      have hother (g : Field σ) (hg : g ∈ fs) (s : σ) :
          g.take s (d :: ds)[((f :: fs).map (·.name)).idxOf g.name]?.toList =
            g.take s ds[(fs.map (·.name)).idxOf g.name]?.toList := by
        have hne : f.name ≠ g.name := fun h => hnames.1 (h ▸ List.mem_map_of_mem hg)
        rw [List.map_cons, List.idxOf_cons_ne _ hne, List.getElem?_cons_succ]
      have hfirst : ((f :: fs).map (·.name)).idxOf f.name = 0 := List.idxOf_cons_self
      rw [readItems, each, hfirst]
      refine congrArg _ (funext fun s => ?_)
      rw [ih hnames.2 (Nat.le_of_succ_le_succ hds), each_congr hother]

/-- More items than there are fields cannot be read. -/
theorem readItems_eq_none (hds : fields.length < ds.length) (s : σ) :
    readItems fields ds s = none := by
  induction fields generalizing ds s with
  | nil =>
    obtain ⟨d, ds, rfl⟩ := List.exists_cons_of_length_pos hds
    rfl
  | cons f fs ih =>
    obtain ⟨d, ds, rfl⟩ := List.exists_cons_of_length_pos (Nat.zero_lt_of_lt hds)
    have hnone : readItems fs ds = fun _ => none := funext (ih (Nat.lt_of_succ_lt_succ hds))
    rw [readItems, hnone, Option.bind_fun_none]

/-- A member whose name is no text cannot be read, whatever comes before it. -/
theorem readMembers_eq_none (seen : List String)
    (h : ∃ m ∈ ms, Spelling.string? m.1 = none) (s : σ) : readMembers fields seen ms s = none := by
  induction ms generalizing seen s with
  | nil => simp at h
  | cons m ms ih =>
    obtain ⟨k, d⟩ := m
    rw [readMembers]
    cases hk : Spelling.string? k with
    | none => rfl
    | some name =>
      have hms : ∃ m ∈ ms, Spelling.string? m.1 = none := by simpa [hk] using h
      have hnone (seen : List String) : readMembers fields seen ms = fun _ => none :=
        funext (ih seen hms)
      simp only [hnone, Option.bind_fun_none, ite_self]
      split <;> rfl

/-! ## Records -/

/-- The names of the fields. -/
abbrev names (fields : List (Field σ)) : List String := fields.map (·.name)

/-- The fields of a record have different names, and can be replaced in any order. -/
structure Distinct (fields : List (Field σ)) : Prop where
  nodup : (names fields).Nodup
  commutes : fields.Pairwise Commutes

/-- A record is put together from what the document gives for each field. -/
theorem read_eq_fill (h : Distinct fields) (hd : d.HasForm (names fields)) (s : σ) :
    read fields s d = fill (d.given (names fields)) fields s := by
  cases d with
  | array ds =>
    exact readItems_eq h.nodup (by simpa [Document.HasForm] using hd) s
  | object ms =>
    refine (readMembers_eq h.nodup h.commutes [] hd s).trans (each_congr fun f _ s => ?_)
    rw [takeUnseen, if_neg (List.not_mem_nil)]
    rfl
  | _ => cases hd

/-- A document of another form gives no record. -/
theorem read_eq_none (hd : ¬d.HasForm (names fields)) (s : σ) : read fields s d = none := by
  cases d with
  | array ds => exact readItems_eq_none (by simpa [Document.HasForm] using hd) s
  | object ms =>
    refine readMembers_eq_none [] ?_ s
    simpa [Document.HasForm, Option.eq_none_iff_forall_ne_some] using hd
  | _ => rfl

/-- A record is read of a document exactly if the document has the form for it, and each
    field can take what is given for it. -/
theorem read_eq_some_iff (hd : Distinct fields) {s₀ s : σ} : read fields s₀ d = some s ↔
      d.HasForm (names fields) ∧ fill (d.given (names fields)) fields s₀ = some s := by
  by_cases hform : d.HasForm (names fields)
  · rw [read_eq_fill hd hform]
    exact ⟨fun h => ⟨hform, h⟩, fun h => h.2⟩
  · rw [read_eq_none hform]
    exact iff_of_false nofun fun h => hform h.1

/-- Only the form of a document matters, and what it gives for each field. -/
theorem read_congr {d' : Document} (h : Distinct fields)
    (hform : d.HasForm (names fields) ↔ d'.HasForm (names fields))
    (htake : ∀ f ∈ fields, ∀ s, f.take s (d.given (names fields) f.name) =
      f.take s (d'.given (names fields) f.name)) (s : σ) :
    read fields s d = read fields s d' := by
  by_cases hd : d.HasForm (names fields)
  · rw [read_eq_fill h hd, read_eq_fill h (hform.1 hd)]
    exact each_congr htake
  · rw [read_eq_none hd, read_eq_none (mt hform.2 hd)]

/-- The order of the values does not matter, as there is one at most if they are taken at all. -/
theorem take_perm {ds ds' : List Document} (h : ds.Perm ds') : f.take s ds = f.take s ds' := by
  have hlen := h.length_eq
  match ds, ds', hlen with
  | [], [], _ => rfl
  | [d], [d'], _ => rw [List.singleton_perm_singleton.1 h]
  | _ :: _ :: _, _ :: _ :: _, _ => rfl

/-- A value can be replaced by another one from which the same is put in. -/
theorem take_append_cons {d' : Document} (h : ∀ s, f.put d s = f.put d' s)
    (ds ds' : List Document) : f.take s (ds ++ d :: ds') = f.take s (ds ++ d' :: ds') := by
  match ds, ds' with
  | [], [] => exact h s
  | [], _ :: _ => rfl
  | [_], _ => rfl
  | _ :: _ :: _, _ => rfl

/-- A field takes no value or one, which must be fit for it. -/
theorem isSome_take {P : Document → Prop} (h : ∀ d s, (f.put d s).isSome ↔ P d) :
    (f.take s ds).isSome ↔ ds.length ≤ 1 ∧ ∀ d ∈ ds, P d := by
  -- No value, one, or more than one.
  rcases ds with - | ⟨d, - | ⟨e, ds⟩⟩
  · simp [take]
  · simp [take, h]
  · simp [take]

/-! ## The fields of a result -/

/-- The value of a field that need not be given: the one value that is given for it, or the
    default if there is none. -/
inductive Given (values : List Document) (Denotes : Document → α → Prop) (default : α) : α → Prop
  /-- The field is left out. -/
  | absent : values = [] → Given values Denotes default default
  /-- The field is given once. -/
  | present {d : Document} {x : α} : values = [d] → Denotes d x → Given values Denotes default x

/-- What a field takes is the value that is given, or the one it has if none is. -/
theorem take_of_eq_some_iff {Denotes : Document → α → Prop} {read : Document → Option α}
    (hread : ∀ d x, read d = some x ↔ Denotes d x) (get : σ → α) {set : σ → α → σ}
    (hset : ∀ s, set s (get s) = s) {name : String} {s s' : σ} :
    (Field.of name read set).take s ds = some s' ↔
      ∃ x, Given ds Denotes (get s) x ∧ set s x = s' := by
  rcases ds with - | ⟨d, - | ⟨e, ds⟩⟩
  · constructor
    · rintro ⟨⟩
      exact ⟨_, .absent rfl, hset _⟩
    · rintro ⟨x, _ | ⟨⟨⟩, -⟩, rfl⟩
      rw [hset]
      rfl
  · simp only [take, Field.of, Option.map_eq_some_iff, hread]
    constructor
    · rintro ⟨x, hx, rfl⟩
      exact ⟨x, .present rfl hx, rfl⟩
    · rintro ⟨x, ⟨⟨⟩⟩ | ⟨⟨⟩, hx⟩, rfl⟩
      exact ⟨x, hx, rfl⟩
  · refine iff_of_false nofun ?_
    rintro ⟨x, ⟨⟨⟩⟩ | ⟨⟨⟩, -⟩, -⟩

/-- The first field is replaced, and then the others. -/
theorem fill_of_eq_some_iff {Denotes : Document → α → Prop} {read : Document → Option α}
    (hread : ∀ d x, read d = some x ↔ Denotes d x) (get : σ → α) {set : σ → α → σ}
    (hset : ∀ s, set s (get s) = s) {name : String} {values : String → List Document}
    {s s' : σ} : fill values (.of name read set :: fields) s = some s' ↔
      ∃ x s₁, Given (values name) Denotes (get s) x ∧ set s x = s₁ ∧
        fill values fields s₁ = some s' := by
  have hfill : fill values (.of name read set :: fields) s =
      ((Field.of name read set).take s (values name)).bind (fill values fields) := rfl
  simp only [hfill, Option.bind_eq_some_iff, take_of_eq_some_iff hread get hset]
  constructor
  · rintro ⟨s₁, ⟨x, hx, hs₁⟩, hs⟩
    exact ⟨x, s₁, hx, hs₁, hs⟩
  · rintro ⟨x, s₁, hx, hs₁, hs⟩
    exact ⟨s₁, ⟨x, hx, hs₁⟩, hs⟩

end Field

end Outbox.Json
