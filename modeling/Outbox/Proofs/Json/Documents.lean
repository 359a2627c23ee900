import Outbox.Json.Document
import Outbox.Proofs.Json.Tokens

/-!
# How documents are written

A document is written in its tokens (`Document.tokens`): items and members stand between
brackets, with a comma between any two of them. A text is that of a document if it is these
tokens with blanks around them (`Document.Spells`), and the document is what is read of it
(`Document.parse?_eq_some_iff`).

The reader takes the tokens one by one. Its bound on the depth is met since two of its steps
take a token at least.
-/

namespace Outbox.Json.Document

mutual

/-- The tokens of a document. -/
def tokens : Document → List Token
  | .null => [.null]
  | .bool b => [.bool b]
  | .numeral n => [.numeral n]
  | .string s => [.string s]
  | .array ds => .leftBracket :: itemTokens ds
  | .object ms => .leftBrace :: memberTokens ms

/-- The tokens of the items of an array, with the closing bracket. -/
def itemTokens : List Document → List Token
  | [] => [.rightBracket]
  | d :: ds => d.tokens ++ laterItemTokens ds

/-- The tokens behind an item of an array, with the closing bracket. -/
def laterItemTokens : List Document → List Token
  | [] => [.rightBracket]
  | d :: ds => .comma :: (d.tokens ++ laterItemTokens ds)

/-- The tokens of the members of an object, with the closing brace. -/
def memberTokens : List (Spelling × Document) → List Token
  | [] => [.rightBrace]
  | (k, d) :: ms => .string k :: .colon :: (d.tokens ++ laterMemberTokens ms)

/-- The tokens behind a member of an object, with the closing brace. -/
def laterMemberTokens : List (Spelling × Document) → List Token
  | [] => [.rightBrace]
  | (k, d) :: ms => .comma :: .string k :: .colon :: (d.tokens ++ laterMemberTokens ms)

end

variable {d : Document} {ts rest : List Token}

/-! ## A document is found -/

/-- A document does not start with a comma or a closing bracket. -/
theorem tokens_ne_cons (d : Document) {t : Token} (ht : t.Closes) (ts : List Token) :
    d.tokens ≠ t :: ts := by
  obtain rfl | rfl | rfl := ht <;> cases d <;> simp [tokens]

/-- There is no document without a token. -/
theorem tokens_ne_nil (d : Document) : d.tokens ≠ [] := by
  cases d <;> simp [tokens]

/-- A document does not start with a token that ends or parts others. -/
theorem tokens_append_ne_cons (d : Document) {t : Token} (ht : t.Closes) (ts us : List Token) :
    d.tokens ++ ts ≠ t :: us := by
  obtain ⟨u, us', hd⟩ := List.exists_cons_of_ne_nil d.tokens_ne_nil
  rw [hd]
  rintro ⟨rfl, -⟩
  exact d.tokens_ne_cons ht us' hd

/-- With this bound on the depth, what is written is found. -/
structure Finds (fuel : Nat) : Prop where
  /-- A document, with whatever follows it. -/
  value : ∀ d rest, 2 * d.tokens.length ≤ fuel → value fuel (d.tokens ++ rest) = some (d, rest)
  /-- Further items of an array, of which some were seen. -/
  items : ∀ d ds seen rest, 2 * (itemTokens (d :: ds)).length ≤ fuel →
    items fuel seen (itemTokens (d :: ds) ++ rest) = some (.array (seen.reverse ++ d :: ds), rest)
  /-- Further members of an object, of which some were seen. -/
  members : ∀ k d ms seen rest, 2 * (memberTokens ((k, d) :: ms)).length ≤ fuel →
    members fuel seen (memberTokens ((k, d) :: ms) ++ rest) =
      some (.object (seen.reverse ++ (k, d) :: ms), rest)

/-- A value takes a step more than its items or its members. -/
theorem Finds.value_succ {fuel : Nat} (h : Finds fuel) (d : Document) (rest : List Token)
    (hfuel : 2 * d.tokens.length ≤ fuel + 1) :
    Document.value (fuel + 1) (d.tokens ++ rest) = some (d, rest) := by
  cases d with
  | array ds =>
    rcases ds with - | ⟨d, ds⟩
    · rfl
    · simp only [tokens, List.length_cons] at hfuel
      rw [tokens, List.cons_append, Document.value, h.items d ds [] rest (by omega)]
      · rfl
      · -- the array is not taken for an empty one
        rw [itemTokens, List.append_assoc]
        exact d.tokens_append_ne_cons (.inr (.inl rfl)) _
  | object ms =>
    rcases ms with - | ⟨⟨k, d⟩, ms⟩
    · rfl
    · simp only [tokens, List.length_cons] at hfuel
      exact h.members k d ms [] rest (by omega)
  | _ => rfl

/-- The first item is found, and then the others if a comma comes, or the end. -/
theorem Finds.items_succ {fuel : Nat} (h : Finds fuel) (d : Document) (ds seen : List Document)
    (rest : List Token) (hfuel : 2 * (itemTokens (d :: ds)).length ≤ fuel + 1) :
    Document.items (fuel + 1) seen (itemTokens (d :: ds) ++ rest) =
      some (.array (seen.reverse ++ d :: ds), rest) := by
  rcases ds with - | ⟨e, ds⟩ <;>
    simp only [itemTokens, laterItemTokens, List.length_append, List.length_cons] at hfuel <;>
    rw [itemTokens, List.append_assoc, Document.items, h.value d _ (by omega)]
  · simp [laterItemTokens]
  · have hitems := h.items e ds (d :: seen) rest (by
      simp only [itemTokens, List.length_append]
      omega)
    simpa [laterItemTokens, itemTokens] using hitems

/-- The same for members, each of which starts with its name. -/
theorem Finds.members_succ {fuel : Nat} (h : Finds fuel) (k : Spelling) (d : Document)
    (ms seen : List (Spelling × Document)) (rest : List Token)
    (hfuel : 2 * (memberTokens ((k, d) :: ms)).length ≤ fuel + 1) :
    Document.members (fuel + 1) seen (memberTokens ((k, d) :: ms) ++ rest) =
      some (.object (seen.reverse ++ (k, d) :: ms), rest) := by
  rcases ms with - | ⟨⟨l, e⟩, ms⟩ <;>
    simp only [memberTokens, laterMemberTokens, List.length_append, List.length_cons] at hfuel <;>
    rw [memberTokens, List.cons_append, List.cons_append, List.append_assoc, Document.members,
      h.value d _ (by omega)]
  · simp [laterMemberTokens]
  · have hmembers := h.members l e ms ((k, d) :: seen) rest (by
      simp only [memberTokens, List.length_append, List.length_cons]
      omega)
    simpa [laterMemberTokens, memberTokens] using hmembers

/-- With fuel for two steps a token, each of the readers finds what is written. -/
theorem finds (fuel : Nat) : Finds fuel := by
  induction fuel with
  | zero =>
    -- nothing that is written has so few tokens
    have hpos (d : Document) : 0 < d.tokens.length := List.length_pos_iff.2 d.tokens_ne_nil
    refine ⟨fun d _ h => ?_, fun d ds _ _ h => ?_, fun k d ms _ _ h => ?_⟩
    · have := hpos d
      omega
    · have := hpos d
      simp only [itemTokens, List.length_append] at h
      omega
    · simp [memberTokens] at h
  | succ fuel ih => exact ⟨ih.value_succ, ih.items_succ, ih.members_succ⟩

/-! ## What is found is a document -/

/-- With this bound on the depth, what is found is written in the tokens taken. -/
structure Sound (fuel : Nat) : Prop where
  /-- A document, with what follows it. -/
  value : ∀ ts d rest, value fuel ts = some (d, rest) → ts = d.tokens ++ rest
  /-- Further items of an array, of which some were seen. -/
  items : ∀ ts d seen rest, items fuel seen ts = some (d, rest) →
    ∃ e es, d = .array (seen.reverse ++ e :: es) ∧ ts = itemTokens (e :: es) ++ rest
  /-- Further members of an object, of which some were seen. -/
  members : ∀ ts d seen rest, members fuel seen ts = some (d, rest) →
    ∃ k e ms, d = .object (seen.reverse ++ (k, e) :: ms) ∧
      ts = memberTokens ((k, e) :: ms) ++ rest

/-- What is read of a value is what is written there: a token of its own, or the brackets
    around others. -/
theorem Sound.value_succ {fuel : Nat} (h : Sound fuel) (ts : List Token) (d : Document)
    (rest : List Token) (hd : Document.value (fuel + 1) ts = some (d, rest)) :
    ts = d.tokens ++ rest := by
  rw [Document.value.eq_def] at hd
  -- only arrays and objects that are not empty take another step
  split at hd
  case h_7 hn =>
    obtain rfl := Nat.succ.inj hn
    obtain ⟨e, es, rfl, rfl⟩ := h.items _ _ _ _ hd
    rfl
  case h_9 hn =>
    obtain rfl := Nat.succ.inj hn
    obtain ⟨k, e, ms, rfl, rfl⟩ := h.members _ _ _ _ hd
    rfl
  all_goals cases hd <;> rfl

/-- What is read of items are items, behind those seen before. -/
theorem Sound.items_succ {fuel : Nat} (h : Sound fuel) (ts : List Token) (d : Document)
    (seen : List Document) (rest : List Token)
    (hd : Document.items (fuel + 1) seen ts = some (d, rest)) :
    ∃ e es, d = .array (seen.reverse ++ e :: es) ∧ ts = itemTokens (e :: es) ++ rest := by
  rw [Document.items] at hd
  split at hd
  next e us he =>
    -- A comma came behind the item, and there are further ones.
    obtain ⟨f, fs, rfl, rfl⟩ := h.items _ _ _ _ hd
    refine ⟨e, f :: fs, by simp, ?_⟩
    rw [h.value _ _ _ he]
    simp [itemTokens, laterItemTokens]
  next e us he =>
    -- The bracket came, and it was the last one.
    obtain ⟨rfl, rfl⟩ := Prod.mk.inj (Option.some.inj hd)
    refine ⟨e, [], by simp, ?_⟩
    rw [h.value _ _ _ he]
    simp [itemTokens, laterItemTokens]
  next => cases hd

/-- What is read of members are members, behind those seen before. -/
theorem Sound.members_succ {fuel : Nat} (h : Sound fuel) (ts : List Token) (d : Document)
    (seen : List (Spelling × Document)) (rest : List Token)
    (hd : Document.members (fuel + 1) seen ts = some (d, rest)) :
    ∃ k e ms, d = .object (seen.reverse ++ (k, e) :: ms) ∧
      ts = memberTokens ((k, e) :: ms) ++ rest := by
  rw [Document.members.eq_def] at hd
  split at hd
  case h_2 k us hn =>
    -- A name and a colon came first, and the value behind them.
    obtain rfl := Nat.succ.inj hn
    split at hd
    next e vs he =>
      obtain ⟨l, f, ms, rfl, rfl⟩ := h.members _ _ _ _ hd
      refine ⟨k, e, (l, f) :: ms, by simp, ?_⟩
      rw [h.value _ _ _ he]
      simp [memberTokens, laterMemberTokens]
    next e vs he =>
      obtain ⟨rfl, rfl⟩ := Prod.mk.inj (Option.some.inj hd)
      refine ⟨k, e, [], by simp, ?_⟩
      rw [h.value _ _ _ he]
      simp [memberTokens, laterMemberTokens]
    next => cases hd
  all_goals cases hd

/-- Whatever the fuel is, each of the readers only reads what is written. -/
theorem sound (fuel : Nat) : Sound fuel := by
  induction fuel with
  | zero => exact ⟨nofun, nofun, nofun⟩
  | succ fuel ih => exact ⟨ih.value_succ, ih.items_succ, ih.members_succ⟩

/-- A document is read of its own tokens, and of no others. -/
theorem ofTokens?_eq_some_iff : ofTokens? ts = some d ↔ ts = d.tokens := by
  rw [ofTokens?]
  constructor
  · intro h
    split at h
    next e he =>
      obtain rfl := Option.some.inj h
      have hts := (sound _).value _ _ _ he
      rwa [List.append_nil] at hts
    next => cases h
  · rintro rfl
    have hd := (finds (2 * d.tokens.length + 1)).value d [] (by omega)
    rw [List.append_nil] at hd
    rw [hd]

/-! ## Texts -/

/-- Only a numeral calls for something to stand apart from it. -/
theorem isChain_cons {t : Token} (ht : ∀ n, t ≠ .numeral n) (h : ts.IsChain Token.Apart) :
    (t :: ts).IsChain Token.Apart :=
  List.isChain_cons.2 ⟨fun _ _ n hn => absurd hn (ht n), h⟩

/-- Behind an item comes a comma or the end. -/
theorem closes_laterItemTokens (ds : List Document) (ts : List Token) :
    ∀ t ∈ (laterItemTokens ds ++ ts).head?, t.Closes := by
  cases ds <;> simp [laterItemTokens, Token.Closes]

/-- Behind a member comes a comma or the end. -/
theorem closes_laterMemberTokens (ms : List (Spelling × Document)) (ts : List Token) :
    ∀ t ∈ (laterMemberTokens ms ++ ts).head?, t.Closes := by
  rcases ms with - | ⟨⟨_, _⟩, _⟩ <;> simp [laterMemberTokens, Token.Closes]

mutual

/-- The tokens of a document stand apart, as what comes behind a numeral is a comma or a bracket. -/
theorem isChain_tokens : ∀ (d : Document) (ts : List Token), ts.IsChain Token.Apart →
    (∀ t ∈ ts.head?, t.Closes) → (d.tokens ++ ts).IsChain Token.Apart
  | .null, _, h, _ => isChain_cons nofun h
  | .bool _, _, h, _ => isChain_cons nofun h
  | .string _, _, h, _ => isChain_cons nofun h
  -- This is the only case in which it matters what comes behind.
  | .numeral _, _, h, ht => List.isChain_cons.2 ⟨fun u hu _ _ => ht u hu, h⟩
  | .array [], _, h, _ => isChain_cons nofun (isChain_cons nofun h)
  | .array (d :: ds), ts, h, _ => by
    rw [tokens, itemTokens, List.cons_append, List.append_assoc]
    exact isChain_cons nofun (isChain_tokens d _ (isChain_laterItemTokens ds ts h)
      (closes_laterItemTokens ds ts))
  | .object [], _, h, _ => isChain_cons nofun (isChain_cons nofun h)
  | .object ((k, d) :: ms), ts, h, _ => by
    rw [tokens, memberTokens, List.cons_append, List.cons_append, List.cons_append,
      List.append_assoc]
    exact isChain_cons nofun (isChain_cons nofun (isChain_cons nofun (isChain_tokens d _
      (isChain_laterMemberTokens ms ts h) (closes_laterMemberTokens ms ts))))

/-- So do those of the items behind the first one. -/
theorem isChain_laterItemTokens : ∀ (ds : List Document) (ts : List Token),
    ts.IsChain Token.Apart → (laterItemTokens ds ++ ts).IsChain Token.Apart
  | [], _, h => isChain_cons nofun h
  | d :: ds, ts, h => by
    rw [laterItemTokens, List.cons_append, List.append_assoc]
    exact isChain_cons nofun (isChain_tokens d _ (isChain_laterItemTokens ds ts h)
      (closes_laterItemTokens ds ts))

/-- So do those of the members behind the first one. -/
theorem isChain_laterMemberTokens : ∀ (ms : List (Spelling × Document)) (ts : List Token),
    ts.IsChain Token.Apart → (laterMemberTokens ms ++ ts).IsChain Token.Apart
  | [], _, h => isChain_cons nofun h
  | (k, d) :: ms, ts, h => by
    rw [laterMemberTokens, List.cons_append, List.cons_append, List.cons_append,
      List.append_assoc]
    exact isChain_cons nofun (isChain_cons nofun (isChain_cons nofun (isChain_tokens d _
      (isChain_laterMemberTokens ms ts h) (closes_laterMemberTokens ms ts))))

end

/-- The text is the document, with any blanks around the tokens. -/
def Spells (d : Document) (text : String) : Prop := Lexed d.tokens text.toList

/-- What is read of a text is the document it is written for. -/
theorem parse?_eq_some_iff {text : String} : parse? text = some d ↔ d.Spells text := by
  rw [parse?, Option.bind_eq_some_iff, Spells]
  constructor
  · rintro ⟨ts, hts, hd⟩
    rw [← ofTokens?_eq_some_iff.1 hd]
    exact Token.lexed_of_scan? hts
  · intro h
    have ha := d.isChain_tokens [] .nil nofun
    rw [List.append_nil] at ha
    exact ⟨d.tokens, Token.scan?_of_lexed h ha, ofTokens?_eq_some_iff.2 rfl⟩

/-- Blanks are put into a text of the document, between two tokens or at an end. -/
inductive Spaced (d : Document) : String → String → Prop
  | mk {ts us : List Token} {cs bs cs' : List Char} : d.tokens = ts ++ us → Lexed ts cs →
      (∀ b ∈ bs, isBlank b = true) → Lexed us cs' →
      Spaced d (String.ofList (cs ++ cs')) (String.ofList (cs ++ (bs ++ cs')))

/-- Both texts are those of the document: blanks between its tokens do not matter. -/
theorem Spaced.spells {text text' : String} (h : d.Spaced text text') :
    d.Spells text ∧ d.Spells text' := by
  obtain ⟨hd, hcs, hbs, hcs'⟩ := h
  rw [Spells, Spells, hd, String.toList_ofList, String.toList_ofList]
  exact ⟨hcs.append hcs', hcs.append (hcs'.blanks hbs)⟩

end Outbox.Json.Document
