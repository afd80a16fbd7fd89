import SqlNormal.Proofs.Places
import SqlNormal.Proofs.Reading
import SqlNormal.Sql.Reader.DataType

/-!
# Two readings beside each other

The same tokens are read twice: at other places, or with other readers for what lies inside. The
second reading gives what the first one gives, at the other places. The first one may stop for its
depth instead; then words whose form is given up where it cannot be read are not admitted.

* `Shift`: the other places, and whether the first reading may stop;
* `Beside`: two readers that read alike; an instance for each reader, found by its parts;
* `beside_bind`, `beside_then`, `beside_pure`: readings in sequence;
* `beside_get`, `beside_set`, `beside_behind`: readings that look at the tokens themselves;
* `beside_typeAt`: names, constants and types are read alike.
-/

namespace SqlNormal.Sql

/-- The places for a second reading, and whether the first one may stop for its depth. -/
structure Shift where
  place : Move
  stops : Prop

/-- Words with a form of their own that are still a name where their form cannot be read. -/
def openForms : List String :=
  ["CURRENT_TIMESTAMP", "CURRENT_TIME", "CURRENT_DATE", "LOCALTIME", "LOCALTIMESTAMP", "CASE",
   "CONVERT", "TRY_CONVERT", "CAST", "TRY_CAST", "SAFE_CAST", "EXTRACT", "CEIL", "FLOOR",
   "POSITION", "SUBSTRING", "OVERLAY", "ARRAY", "NOT", "MATCH", "MAP"]

/-- The token begins no form that is given up where it cannot be read. -/
def Lexeme.Plain (l : Lexeme) : Prop :=
  l.token.keyword ∉ openForms

/-- The tokens that are admitted. -/
def Shift.Admits (c : Shift) (tokens : List Lexeme) : Prop :=
  c.stops → ∀ l ∈ tokens, l.Plain

variable {c : Shift}

theorem Shift.Admits.mono {tokens rest : List Lexeme} (h : c.Admits tokens)
    (hrest : ∀ l ∈ rest, l ∈ tokens) : c.Admits rest :=
  fun hstops l hl => h hstops l (hrest l hl)

namespace Reader

/-- The second reader gives what the first one gives, at the other places, if the first one does not
stop for its depth. -/
class Beside {α : Type} [Placed α] (c : Shift) (x y : Reader α) : Prop where
  run (tokens : List Lexeme) (h : c.Admits tokens) :
    (c.stops ∧ x tokens = .error .tooDeep) ∨
      (y (Placed.place c.place tokens) = (x tokens).map (Placed.place c.place) ∧
        ∀ a rest, x tokens = .ok (a, rest) → c.Admits rest)

variable {α β : Type} [Placed α] [Placed β]

/-! ## Sequences and choices -/

theorem beside_bind {x y : Reader α} {f g : α → Reader β} (h : Beside c x y)
    (hfg : ∀ a, Beside c (f a) (g (Placed.place c.place a))) : Beside c (x >>= f) (y >>= g) := by
  constructor
  intro tokens hadmits
  rw [run_bind, run_bind]
  rcases h.run tokens hadmits with ⟨hstops, hx⟩ | ⟨hy, hrest⟩
  · rw [hx]
    exact .inl ⟨hstops, rfl⟩
  · rw [hy]
    cases hx : x tokens with
    | error e => exact .inr ⟨rfl, nofun⟩
    | ok q => exact (hfg q.1).run q.2 (hrest q.1 q.2 hx)

instance (priority := high) beside_bind_fixed [Fixed α] {x y : Reader α} {f g : α → Reader β}
    [h : Beside c x y] [hfg : ∀ a, Beside c (f a) (g a)] : Beside c (x >>= f) (y >>= g) :=
  beside_bind h fun a => by
    rw [Fixed.place_eq]
    exact hfg a

/-- What is read first holds no places. -/
theorem beside_then [Fixed α] {x y : Reader α} {f g : α → Reader β} [Beside c x y]
    (h : ∀ a, Beside c (f a) (g a)) : Beside c (x >>= f) (y >>= g) :=
  beside_bind_fixed

/-- Both readings leave the tokens and give something. -/
theorem beside_pure {a b : α} (h : b = Placed.place c.place a) :
    Beside c (pure a : Reader α) (pure b) :=
  ⟨fun tokens hadmits => .inr ⟨by rw [h]; rfl, by rintro _ _ ⟨⟩; exact hadmits⟩⟩

instance beside_pure_fixed [Fixed α] {a : α} : Beside c (pure a : Reader α) (pure a) :=
  beside_pure (Fixed.place_eq _ _).symm

instance beside_refuse : Beside c (refuse : Reader α) refuse :=
  ⟨fun _ _ => .inr ⟨rfl, nofun⟩⟩

instance beside_ite {p : Prop} [Decidable p] {x y x' y' : Reader α} [hx : Beside c x x']
    [hy : Beside c y y'] : Beside c (if p then x else y) (if p then x' else y') := by
  split_ifs
  · exact hx
  · exact hy

/-- Either of two readings, without a look for instances. -/
theorem beside_either {p : Prop} [Decidable p] {x y x' y' : Reader α} (hx : Beside c x x')
    (hy : Beside c y y') : Beside c (if p then x else y) (if p then x' else y') :=
  beside_ite

/-- A choice by what is read. -/
theorem beside_test {x : Reader Bool} {f g f' g' : Reader α} [Beside c x x] (hf : Beside c f f')
    (hg : Beside c g g') :
    Beside c (x >>= fun found => if found then f else g)
      (x >>= fun found => if found then f' else g') :=
  beside_then fun _ => beside_either hf hg

/-- What is read may be absent elsewhere. -/
theorem beside_given {x y : Reader α} (h : Beside c x y) : Beside c (some <$> x) (some <$> y) := by
  simp only [← bind_pure_comp]
  exact beside_bind h fun _ => beside_pure rfl

instance beside_some {x y : Reader α} [h : Beside c x y] : Beside c (some <$> x) (some <$> y) :=
  beside_given h

/-- What is there only under a condition. -/
theorem beside_optional {p : Prop} [Decidable p] {x y : Reader α} [h : Beside c x y]
    {f g : Option α → Reader β} (hfg : ∀ a, Beside c (f a) (g (Placed.place c.place a))) :
    Beside c (if p then some <$> x >>= f else pure none >>= f)
      (if p then some <$> y >>= g else pure none >>= g) :=
  beside_either (beside_bind (beside_given h) hfg) (hfg none)

instance beside_map [Fixed α] [Fixed β] {f : α → β} {x y : Reader α} [Beside c x y] :
    Beside c (f <$> x) (f <$> y) := by
  simp only [← bind_pure_comp]
  infer_instance

instance beside_discard [Fixed α] {x y : Reader α} [Beside c x y] :
    Beside c (discard x) (discard y) := by
  show Beside c (Function.const _ PUnit.unit <$> x) (Function.const _ PUnit.unit <$> y)
  infer_instance

instance beside_attempt {x y : Reader α} [h : Beside c x y] :
    Beside c (attempt x) (attempt y) := by
  constructor
  intro tokens hadmits
  unfold attempt
  rcases h.run tokens hadmits with ⟨hstops, hx⟩ | ⟨hy, hrest⟩
  · rw [hx]
    exact .inl ⟨hstops, rfl⟩
  · rw [hy]
    cases hx : x tokens with
    | error e =>
      cases e with
      | tooDeep => exact .inr ⟨rfl, nofun⟩
      | unreadable => exact .inr ⟨rfl, by rintro _ _ ⟨⟩; exact hadmits⟩
    | ok q => exact .inr ⟨rfl, by rintro _ _ ⟨⟩; exact hrest _ _ hx⟩

/-! ## Tokens -/

/-- What looks at tokens without their places and leaves them. -/
theorem beside_look [Fixed α] {x : Reader α} (f : List Token → α)
    (h : ∀ tokens, x tokens = .ok (f (tokens.map (·.token)), tokens)) : Beside c x x := by
  constructor
  intro tokens hadmits
  have htokens : (Placed.place c.place tokens : List Lexeme).map (·.token) =
      tokens.map (·.token) := by
    simp [Placed.place, Lexeme.place]
  have hfixed : Placed.place c.place (f (tokens.map (·.token))) = f (tokens.map (·.token)) :=
    Fixed.place_eq _ _
  refine .inr ⟨?_, ?_⟩
  · rw [h, h, htokens]
    show _ = Except.ok (Placed.place c.place (f (tokens.map (·.token))), _)
    rw [hfixed]
  · intro a rest hrun
    rw [h] at hrun
    cases hrun
    exact hadmits

theorem beside_get {f g : List Lexeme → Reader α}
    (h : ∀ tokens : List Lexeme, c.Admits tokens →
      Beside c (f tokens) (g (Placed.place c.place tokens))) :
    Beside c (get >>= f) (get >>= g) :=
  ⟨fun tokens hadmits => (h tokens hadmits).run tokens hadmits⟩

theorem beside_set {f g : PUnit → Reader α} {tokens : List Lexeme} (hadmits : c.Admits tokens)
    (h : Beside c (f ⟨⟩) (g ⟨⟩)) :
    Beside c (set tokens >>= f) (set (Placed.place c.place tokens) >>= g) :=
  ⟨fun _ _ => h.run tokens hadmits⟩

instance beside_peek : Beside c peek peek :=
  beside_look List.head? fun tokens => by rw [List.head?_map]; rfl

instance beside_keywordAt (n : Nat) : Beside c (keywordAt n) (keywordAt n) :=
  beside_look (fun tokens => (tokens[n]?.map Token.keyword).getD "") fun tokens => by
    rw [List.getElem?_map, Option.map_map]
    rfl

instance beside_skip (n : Nat) : Beside c (skip n) (skip n) := by
  refine ⟨fun tokens hadmits => .inr ⟨?_, ?_⟩⟩
  · show Except.ok (_, (Placed.place c.place tokens).drop n) =
      Except.ok (_, Placed.place c.place (tokens.drop n))
    simp [Placed.place, List.map_drop]
  · rintro a rest ⟨⟩
    exact hadmits.mono fun l => List.mem_of_mem_drop

instance beside_next : Beside c next next := by
  refine ⟨fun tokens hadmits => .inr ?_⟩
  cases tokens with
  | nil => exact ⟨rfl, nofun⟩
  | cons l tokens =>
    refine ⟨rfl, ?_⟩
    rintro a rest ⟨⟩
    exact hadmits.mono fun l => List.mem_cons_of_mem _

/-- A reading behind a token sees the same token at another place. -/
theorem beside_behind {f g : Lexeme → Reader α}
    (h : ∀ token start, Beside c (f ⟨token, start⟩) (g ⟨token, c.place (identOf? token) start⟩)) :
    Beside c (next >>= f) (next >>= g) :=
  beside_bind beside_next fun l => h l.token l.start

@[simp] theorem length_place (p : Move) (tokens : List Lexeme) :
    (Placed.place p tokens).length = tokens.length :=
  List.length_map _

instance beside_peekKeyword (word : String) : Beside c (peekKeyword word) (peekKeyword word) := by
  unfold peekKeyword
  infer_instance

instance beside_peekSymbol (spelling : String) :
    Beside c (peekSymbol spelling) (peekSymbol spelling) := by
  unfold peekSymbol
  infer_instance

instance beside_keyword? (word : String) : Beside c (keyword? word) (keyword? word) := by
  unfold keyword?
  infer_instance

instance beside_keywords? (words : List String) : Beside c (keywords? words) (keywords? words) := by
  refine beside_get fun tokens _ => ?_
  have hahead : ((Placed.place c.place tokens).take words.length).map (fun l => l.token.keyword) =
      (tokens.take words.length).map fun l => l.token.keyword := by
    simp [Placed.place, Lexeme.place, ← List.map_take]
  simp only [hahead]
  infer_instance

instance beside_oneOf? (words : List String) : Beside c (oneOf? words) (oneOf? words) := by
  unfold oneOf?
  infer_instance

instance beside_symbol? (spelling : String) : Beside c (symbol? spelling) (symbol? spelling) := by
  unfold symbol?
  infer_instance

instance beside_expectKeyword (word : String) :
    Beside c (expectKeyword word) (expectKeyword word) := by
  unfold expectKeyword
  infer_instance

instance beside_expectKeywords (words : List String) :
    Beside c (expectKeywords words) (expectKeywords words) := by
  unfold expectKeywords
  infer_instance

instance beside_expectSymbol (spelling : String) :
    Beside c (expectSymbol spelling) (expectSymbol spelling) := by
  unfold expectSymbol
  infer_instance

instance beside_expectOneOf (words : List String) :
    Beside c (expectOneOf words) (expectOneOf words) := by
  refine beside_then fun word => ?_
  cases word with
  | some word => exact beside_pure_fixed
  | none => exact beside_refuse

/-! ## Combinators -/

theorem beside_within {x y : Reader α} (h : Beside c x y) :
    Beside c (inParens x) (inParens y) := by
  refine beside_then fun _ => beside_bind h fun a => ?_
  exact beside_then fun _ => beside_pure rfl

theorem beside_behindWords (words : List String) {x y : Reader α} (h : Beside c x y) :
    Beside c (clauses? words x) (clauses? words y) := by
  refine beside_then fun found => beside_either ?_ (beside_pure rfl)
  exact beside_bind h fun a => beside_pure rfl

section Combinators

variable {x y : Reader α} [h : Beside c x y]
include h

instance beside_inParens : Beside c (inParens x) (inParens y) :=
  beside_within h

instance beside_clause? (word : String) : Beside c (clause? word x) (clause? word y) := by
  refine beside_then fun found => ?_
  have hsome : Beside c (x >>= fun a => pure (some a)) (y >>= fun a => pure (some a)) :=
    beside_bind h fun a => beside_pure rfl
  have hnone : Beside c (pure none : Reader (Option α)) (pure none) := beside_pure rfl
  infer_instance

instance beside_clauses? (words : List String) :
    Beside c (clauses? words x) (clauses? words y) :=
  beside_behindWords words h

instance beside_separatedFrom (fuel : Nat) :
    Beside c (separatedFrom x fuel) (separatedFrom y fuel) := by
  induction fuel with
  | zero => exact beside_refuse
  | succ fuel ih =>
    refine beside_bind h fun a => beside_then fun comma => ?_
    have hmore : Beside c (separatedFrom x fuel >>= fun as => pure (a :: as))
        (separatedFrom y fuel >>= fun as => pure (Placed.place c.place a :: as)) :=
      beside_bind ih fun as => beside_pure rfl
    have hlast : Beside c (pure [a] : Reader (List α)) (pure [Placed.place c.place a]) :=
      beside_pure rfl
    infer_instance

instance beside_separated : Beside c (separated x) (separated y) :=
  beside_get fun tokens _ => by
    rw [length_place]
    exact beside_separatedFrom _

instance beside_separatedOrNone (closing : String) :
    Beside c (separatedOrNone closing x) (separatedOrNone closing y) := by
  have hnone : Beside c (pure [] : Reader (List α)) (pure []) := beside_pure rfl
  unfold separatedOrNone
  infer_instance

end Combinators

instance beside_repeatedFrom {x y : Reader (Option α)} [h : Beside c x y] (fuel : Nat) :
    Beside c (repeatedFrom x fuel) (repeatedFrom y fuel) := by
  induction fuel with
  | zero => exact beside_pure rfl
  | succ fuel ih =>
    refine beside_bind h fun a => ?_
    cases a with
    | some a => exact beside_bind ih fun as => beside_pure rfl
    | none => exact beside_pure rfl

instance beside_repeated {x y : Reader (Option α)} [Beside c x y] :
    Beside c (repeated x) (repeated y) :=
  beside_get fun tokens _ => by
    rw [length_place]
    exact beside_repeatedFrom _

/-! ## Names and constants -/

instance beside_ident : Beside c ident ident := by
  refine beside_behind fun token start => ?_
  dsimp only
  split <;> infer_instance

instance beside_pathFrom (fuel : Nat) : Beside c (pathFrom fuel) (pathFrom fuel) := by
  induction fuel with
  | zero => exact beside_refuse
  | succ fuel ih =>
    unfold pathFrom
    infer_instance

instance beside_objectName : Beside c objectName objectName :=
  beside_get fun tokens _ => by
    rw [length_place]
    exact beside_pathFrom _

theorem run_ident (l : Lexeme) (tokens : List Lexeme) :
    ident (l :: tokens) = match identOf? l.token with
      | some i => .ok (i, tokens)
      | none => .error .unreadable := by
  show (match identOf? l.token with | some i => pure i | none => refuse : Reader Ident) tokens = _
  cases identOf? l.token <;> rfl

/-- A path of names begins with the name of the first token. -/
theorem head?_of_objectName {tokens rest : List Lexeme} {names : List Ident}
    (h : objectName tokens = .ok (names, rest)) :
    ∃ l behind, tokens = l :: behind ∧ names.head? = identOf? l.token := by
  rw [objectName, run_bind, run_get, ok_bind, pathFrom, run_bind] at h
  cases tokens with
  | nil => cases h
  | cons l behind =>
    refine ⟨l, behind, rfl, ?_⟩
    rw [run_ident] at h
    cases hi : identOf? l.token with
    | none =>
      rw [hi] at h
      cases h
    | some i =>
      have hgives (fuel : Nat) : Gives (fun names => names.head? = some i) (do
          if ← symbol? "." then return i :: (← pathFrom fuel) else return [i]) :=
        gives_then fun _ => gives_ite (fun _ => gives_then fun _ => gives_pure rfl) fun _ =>
          gives_pure rfl
      rw [hi, ok_bind] at h
      exact hgives _ _ _ _ h

/-- A reading that looks at the first token before it reads a path sees a token with the name that
the path begins with. -/
theorem beside_named {f g : List Lexeme → List Ident → Reader α}
    (h : ∀ l tokens names, names.head? = identOf? l.token →
      Beside c (f (l :: tokens) names) (g (Placed.place c.place (l :: tokens)) names)) :
    Beside c (get >>= fun tokens => objectName >>= f tokens)
      (get >>= fun tokens => objectName >>= g tokens) := by
  constructor
  intro tokens hadmits
  rw [run_bind, run_bind, run_get, run_get, ok_bind, ok_bind, run_bind, run_bind]
  rcases (beside_objectName (c := c)).run tokens hadmits with ⟨hstops, hx⟩ | ⟨hy, hrest⟩
  · rw [hx]
    exact .inl ⟨hstops, rfl⟩
  · rw [hy]
    cases hx : objectName tokens with
    | error e => exact .inr ⟨rfl, nofun⟩
    | ok q =>
      obtain ⟨names, rest⟩ := q
      obtain ⟨l, behind, rfl, hhead⟩ := head?_of_objectName hx
      have hnames : Placed.place c.place names = names := Fixed.place_eq _ _
      have hrun := (h l behind names hhead).run rest (hrest names rest hx)
      show (c.stops ∧ f (l :: behind) names rest = _) ∨
        (g _ (Placed.place c.place names) (Placed.place c.place rest) = _ ∧ _)
      rw [hnames]
      exact hrun

instance beside_objectText : Beside c objectText objectText := by
  unfold objectText
  infer_instance

instance beside_literalString : Beside c literalString literalString := by
  refine beside_behind fun token start => ?_
  dsimp only
  split <;> infer_instance

instance beside_naturalNumber : Beside c naturalNumber naturalNumber := by
  refine beside_behind fun token start => ?_
  dsimp only
  split
  · split <;> infer_instance
  · infer_instance

instance beside_precision? : Beside c precision? precision? := by
  unfold precision?
  infer_instance

instance beside_constant : Beside c constant constant := by
  refine beside_behind fun token start => ?_
  have hplaceholder (s : String) : Beside c
      (next >>= fun l => match l.token with
        | .word i => pure (Constant.placeholder (s ++ i.value))
        | .number n false => pure (.placeholder (s ++ n.digits))
        | _ => refuse)
      (next >>= fun l => match l.token with
        | .word i => pure (Constant.placeholder (s ++ i.value))
        | .number n false => pure (.placeholder (s ++ n.digits))
        | _ => refuse) := by
    refine beside_behind fun token start => ?_
    dsimp only
    split <;> infer_instance
  dsimp only
  split
  · infer_instance
  · split <;> infer_instance

/-! ## Types -/

instance beside_sizeText : Beside c sizeText sizeText := by
  unfold sizeText
  infer_instance

instance beside_lengthText : Beside c lengthText lengthText := by
  unfold lengthText
  infer_instance

instance beside_scaleText : Beside c scaleText scaleText := by
  unfold scaleText
  infer_instance

instance beside_zoneText : Beside c zoneText zoneText := by
  unfold zoneText
  infer_instance

instance beside_charactersText (word : String) :
    Beside c (charactersText word) (charactersText word) := by
  unfold charactersText
  infer_instance

instance beside_modifiersFrom (fuel : Nat) :
    Beside c (modifiersFrom fuel) (modifiersFrom fuel) := by
  induction fuel with
  | zero => exact beside_refuse
  | succ fuel ih =>
    refine beside_behind fun token start => ?_
    dsimp only
    split <;> infer_instance

instance beside_customType : Beside c customType customType := by
  refine beside_then fun name => beside_then fun opened => ?_
  refine beside_either (beside_get fun tokens _ => ?_) inferInstance
  rw [length_place]
  infer_instance

instance beside_enumText (word : String) : Beside c (enumText word) (enumText word) := by
  have hvalue (name : String) : Beside c
      (next >>= fun l => match l.token with
        | .number n long => pure (name ++ " = " ++ n.text long)
        | _ => refuse)
      (next >>= fun l => match l.token with
        | .number n long => pure (name ++ " = " ++ n.text long)
        | _ => refuse) := by
    refine beside_behind fun token start => ?_
    dsimp only
    split <;> infer_instance
  unfold enumText
  infer_instance

instance beside_setMembersFrom (fuel : Nat) :
    Beside c (setMembersFrom fuel) (setMembersFrom fuel) := by
  induction fuel with
  | zero => exact beside_refuse
  | succ fuel ih =>
    refine beside_behind fun token start => ?_
    dsimp only
    split <;> infer_instance

instance beside_setText : Beside c setText setText := by
  refine beside_then fun _ => beside_get fun tokens _ => ?_
  rw [length_place]
  infer_instance

instance beside_datetime64Text : Beside c datetime64Text datetime64Text := by
  unfold datetime64Text
  infer_instance

instance beside_closeAngle (closed : Bool) : Beside c (closeAngle closed) (closeAngle closed) := by
  unfold closeAngle
  infer_instance

instance beside_arrayMarksFrom (text : String) (fuel : Nat) :
    Beside c (arrayMarksFrom text fuel) (arrayMarksFrom text fuel) := by
  induction fuel generalizing text with
  | zero => exact beside_pure_fixed
  | succ fuel ih =>
    unfold arrayMarksFrom
    infer_instance

section Types

variable {type type' : Reader (DataType × Bool)} [Beside c type type']

instance beside_fieldOf : Beside c (fieldOf type) (fieldOf type') := by
  unfold fieldOf
  extract_lets isWord
  have hword (o : Option Lexeme) : isWord (o.map (Lexeme.place c.place)) = isWord o := by
    rcases o with _ | ⟨token, start⟩
    · rfl
    · cases token <;> rfl
  refine beside_get fun tokens _ => ?_
  have hget (n : Nat) : (Placed.place c.place tokens)[n]? =
      tokens[n]?.map (Lexeme.place c.place) := List.getElem?_map ..
  simp only [hget, hword]
  infer_instance

instance beside_fieldsFrom {field field' : Reader (String × Bool)} [Beside c field field']
    (fuel : Nat) : Beside c (fieldsFrom field fuel) (fieldsFrom field' fuel) := by
  induction fuel with
  | zero => exact beside_refuse
  | succ fuel ih =>
    unfold fieldsFrom
    infer_instance

instance beside_structFields : Beside c (structFields type) (structFields type') := by
  refine beside_then fun opened => ?_
  refine beside_either (beside_get fun tokens _ => ?_) inferInstance
  rw [length_place]
  infer_instance

instance beside_typeOfWord (word : String) :
    Beside c (typeOfWord word type) (typeOfWord word type') := by
  unfold typeOfWord
  dsimp only
  split
  · infer_instance
  · split_ifs
    iterate 4 infer_instance
    split <;> infer_instance

end Types

instance beside_typeAt (fuel : Nat) : Beside c (typeAt fuel) (typeAt fuel) := by
  induction fuel with
  | zero => exact beside_refuse
  | succ fuel ih =>
    unfold typeAt
    refine beside_then fun word => beside_then fun behind => ?_
    extract_lets rest
    have hrest (type : String × Bool × TypeClass) : Beside c (rest type) (rest type) := by
      refine beside_get fun tokens _ => ?_
      rw [length_place]
      infer_instance
    refine beside_either inferInstance (beside_either inferInstance (beside_then fun token => ?_))
    split <;> infer_instance

instance beside_dataType : Beside c dataType dataType := by
  refine beside_get fun tokens _ => ?_
  rw [length_place]
  infer_instance

end Reader

end SqlNormal.Sql
