import SqlNormal.Proofs.Surroundings

/-!
# Sessions

Of a session only its values enter a node, each at the calls that ask for it, and nothing else of the
node depends on them.

* `isSession`, `Session.answer`: the functions that a session answers, and its answers;
* `Node.withoutValues`: a node with its values forgotten;
* `Environment.map_answeredBy_bind`: a session adds its answers to what is bound without one;
* `Node.answered`: a node with a constant for every call that has a value; it has the same text;
* **`bind_session`**: two sessions beside each other.
-/

namespace SqlNormal

/-! ## What a session answers -/

/-- A function that is answered by the session. -/
def isSession (id : FunctionId) : Bool :=
  (lookup? id).any fun entry => entry.functionClass = .session

/-- The functions that are answered by the session. -/
def sessionFunctions : List FunctionId :=
  [.currentUser, .sessionUser, .user, .currentDatabase, .database, .currentSchema]

/-- The value that the session has for a function. -/
def Session.answer (s : Session) (id : FunctionId) : Option Value :=
  if id = .currentUser ∨ id = .sessionUser ∨ id = .user then s.user.map .varchar
  else if id = .currentDatabase ∨ id = .database then s.database.map .varchar
  else if id = .currentSchema then s.schema.map .varchar
  else none

/-- The class of the catalog's entries and the answers are for the same functions. -/
theorem isSession_iff {id : FunctionId} : isSession id = true ↔ id ∈ sessionFunctions := by
  have hclass : ∀ id ∈ sessionFunctions, isSession id = true := by decide +kernel
  refine ⟨fun h => ?_, hclass id⟩
  obtain ⟨entry, hlookup, hsession⟩ := (Option.any_eq_true _ _).mp h
  obtain rfl := id_of_lookup? hlookup
  exact session_entries entry (List.mem_of_find?_eq_some hlookup) (of_decide_eq_true hsession)

example : sessionFunctions.map (fun id => (lookup? id).map (·.canonicalName)) =
    [some "CURRENT_USER", some "SESSION_USER", some "USER", some "CURRENT_DATABASE",
      some "DATABASE", some "CURRENT_SCHEMA"] := by
  decide +kernel

namespace Session

variable {s : Session} {id : FunctionId}

theorem answer_eq_none (h : isSession id = false) : s.answer id = none := by
  have hid : id ∉ sessionFunctions := by
    rw [← isSession_iff, h]
    exact Bool.false_ne_true
  simp only [sessionFunctions, List.mem_cons, List.not_mem_nil, or_false, not_or] at hid
  simp [answer, hid]

theorem answer_isSome (h : isSession id = true) (huser : s.user.isSome)
    (hdatabase : s.database.isSome) (hschema : s.schema.isSome) : (s.answer id).isSome := by
  have hid := isSession_iff.mp h
  simp only [sessionFunctions, List.mem_cons, List.not_mem_nil, or_false] at hid
  unfold answer
  split_ifs with h₁ h₂ h₃
  · rwa [Option.isSome_map]
  · rwa [Option.isSome_map]
  · rwa [Option.isSome_map]
  · tauto

end Session

/-- The value of a call is the session's answer. -/
theorem valueOfCall_eq (env : Environment) {entry : CatalogEntry}
    (h : lookup? entry.id = some entry) :
    env.valueOfCall entry = .ok (env.session.answer entry.id) := by
  have hclass : isSession entry.id = true ↔ entry.functionClass = .session := by
    simp [isSession, h]
  unfold Environment.valueOfCall
  split_ifs with hsession
  · have hid := isSession_iff.mp (hclass.mpr hsession)
    simp only [sessionFunctions, List.mem_cons, List.not_mem_nil, or_false] at hid
    unfold Environment.sessionValue Session.answer
    split_ifs with h₁ h₂ h₃
    · rfl
    · rfl
    · rfl
    · tauto
  · have hnone : isSession entry.id = false := by
      rw [← Bool.not_eq_true, hclass]
      exact hsession
    rw [Session.answer_eq_none hnone]
    rfl

/-! ## Answers in a node -/

/-- The call with the session's answer to it. -/
def CallHead.answeredBy (s : Session) (head : CallHead) : CallHead :=
  { head with sessionValue := s.answer head.id }

/-- The call without a value. -/
def CallHead.withoutValue (head : CallHead) : CallHead :=
  { head with sessionValue := none }

/-- The node without the values of its calls. -/
def Node.withoutValues : Node → Node :=
  Node.seen true CallHead.withoutValue

namespace Environment

theorem beside_withoutValue (config : Config) (s₁ s₂ : Session) :
    Beside true CallHead.withoutValue CallHead.withoutValue
      { config := config, session := s₁ } { config := config, session := s₂ } where
  standard := rfl
  standard' := rfl
  depth := rfl
  commas _ _ := ⟨rfl, rfl⟩
  form _ _ _ _ _ := rfl
  row entry hlookup spelling := by
    rw [valueOfCall_eq _ hlookup, valueOfCall_eq _ hlookup]
    rfl

/-- Apart from the values, all sessions give the same. -/
theorem map_withoutValues_bind (config : Config) (s₁ s₂ : Session) (t : Tree) :
    (({ config := config, session := s₁ } : Environment).bind t).map Node.withoutValues =
      (({ config := config, session := s₂ } : Environment).bind t).map Node.withoutValues :=
  lower_seen (beside_withoutValue config s₁ s₂) (Nat.le_refl 1) t

theorem beside_answeredBy (config : Config) (s : Session) :
    Beside true (CallHead.answeredBy s) id { config := config }
      { config := config, session := s } where
  standard := rfl
  standard' := rfl
  depth := rfl
  commas _ _ := ⟨rfl, rfl⟩
  form entry hlookup hclass keyword keywordForm := by
    have hnone : isSession entry.id = false := by simpa [isSession, hlookup] using hclass
    have hanswer : s.answer entry.id = none := Session.answer_eq_none hnone
    simp [CallHead.answeredBy, newHead, hanswer]
  row entry hlookup spelling := by
    rw [valueOfCall_eq _ hlookup, valueOfCall_eq _ hlookup]
    rfl

/-- A session adds its answers to what is bound without one. -/
theorem map_answeredBy_bind (config : Config) (s : Session) (t : Tree) :
    (({ config := config } : Environment).bind t).map (Node.seen true (CallHead.answeredBy s)) =
      ({ config := config, session := s } : Environment).bind t := by
  have hseen : Node.seen true id = id := funext Node.seen_id
  have h := lower_seen (beside_answeredBy config s) (Nat.le_refl 1) t
  rw [hseen, Except.map_id] at h
  exact h

theorem answeredBy_of_bind {config : Config} {s : Session} {t : Tree} {n : Node}
    (h : ({ config := config, session := s } : Environment).bind t = .ok n) :
    ∃ m, ({ config := config } : Environment).bind t = .ok m ∧
      m.seen true (CallHead.answeredBy s) = n := by
  rw [← map_answeredBy_bind] at h
  cases hm : ({ config := config } : Environment).bind t with
  | error e =>
    rw [hm] at h
    cases h
  | ok m =>
    rw [hm] at h
    exact ⟨m, rfl, Except.ok.inj h⟩

/-- Every call has the session's answer. -/
theorem sessionValue_of_bind {config : Config} {s : Session} {t : Tree} {n : Node}
    (h : ({ config := config, session := s } : Environment).bind t = .ok n) {head : CallHead}
    (hhead : head ∈ n.calls) : head.sessionValue = s.answer head.id := by
  obtain ⟨m, -, rfl⟩ := answeredBy_of_bind h
  rw [Node.calls_seen] at hhead
  obtain ⟨own, -, rfl⟩ := List.mem_map.mp hhead
  rfl

/-- Without a function that the session answers, all sessions give the same node. -/
theorem eq_of_bind {config : Config} {s₁ s₂ : Session} {t : Tree} {n₁ n₂ : Node}
    (h₁ : ({ config := config, session := s₁ } : Environment).bind t = .ok n₁)
    (h₂ : ({ config := config, session := s₂ } : Environment).bind t = .ok n₂)
    (hids : ∀ head ∈ n₁.calls, isSession head.id = false) : n₁ = n₂ := by
  obtain ⟨m, hm, rfl⟩ := answeredBy_of_bind h₁
  obtain ⟨m', hm', rfl⟩ := answeredBy_of_bind h₂
  obtain rfl : m = m' := Except.ok.inj (hm.symm.trans hm')
  rw [Node.calls_seen, List.forall_mem_map] at hids
  refine Node.seen_congr m fun head hhead => ?_
  have hnone : isSession head.id = false := hids head hhead
  simp only [CallHead.answeredBy, Session.answer_eq_none hnone]

end Environment

/-! ## Values in place of calls -/

namespace Node

/-- The node with a constant in place of every call that has a value. -/
def answered : Node → Node
  | constant l value => constant l value
  | column l qualifier name => column l qualifier name
  | columns l qualifier => columns l qualifier
  | call l head params =>
    match head.sessionValue with
    | some value => constant l value
    | none => call l head (answeredList params)
  | case l branches otherwise => case l (answeredBranches branches) (answeredOption otherwise)
  | cast l operand target => cast l (answered operand) target
  | operation l op operands => operation l op (answeredList operands)
termination_by structural n => n
where
  /-- Nodes in a row. -/
  answeredList : List Node → List Node
    | [] => []
    | n :: ns => answered n :: answeredList ns
  termination_by structural ns => ns
  /-- A node that may be absent. -/
  answeredOption : Option Node → Option Node
    | none => none
    | some n => some (answered n)
  termination_by structural n => n
  /-- The branches of a CASE. -/
  answeredBranches : List (Node × Node) → List (Node × Node)
    | [] => []
    | (predicate, result) :: rest => (answered predicate, answered result) :: answeredBranches rest
  termination_by structural bs => bs

@[simp] theorem answeredList_eq (ns : List Node) :
    answered.answeredList ns = ns.map answered := by
  induction ns with
  | nil => rfl
  | cons n ns ih => rw [answered.answeredList, ih, List.map_cons]

@[simp] theorem answeredOption_eq (n : Option Node) :
    answered.answeredOption n = n.map answered := by
  cases n <;> rfl

@[simp] theorem answeredBranches_eq (bs : List (Node × Node)) :
    answered.answeredBranches bs = bs.map fun b => (b.1.answered, b.2.answered) := by
  induction bs with
  | nil => rfl
  | cons b bs ih => rw [answered.answeredBranches, ih, List.map_cons]

/-- The value at the root. -/
def value? (n : Node) : Option Value :=
  n.callHead?.bind (·.sessionValue)

theorem answered_of_some {n : Node} {value : Value} (h : n.value? = some value) :
    n.answered = constant n.labels value := by
  cases n with
  | call l head params =>
    have hvalue : head.sessionValue = some value := h
    rw [answered, hvalue]
    rfl
  | _ => cases h

theorem answered_of_none {n : Node} (h : n.value? = none) : n.answered = n.rebuild id id answered := by
  cases n with
  | call l head params =>
    have hvalue : head.sessionValue = none := h
    simp [answered, rebuild, hvalue]
  | _ => simp [answered, rebuild]

/-- No call with a value is left. -/
theorem calls_answered (n : Node) :
    ∀ head ∈ n.answered.calls, head ∈ n.calls ∧ head.sessionValue = none := by
  induction n using Node.induction with
  | step n ih =>
    intro head hhead
    cases hvalue : n.value? with
    | some value =>
      rw [answered_of_some hvalue] at hhead
      cases hhead
    | none =>
      rw [answered_of_none hvalue, calls_eq, children_rebuild, List.flatMap_map] at hhead
      rw [calls_eq]
      rcases List.mem_append.mp hhead with hown | hpart
      · cases n with
        | call l own params =>
          obtain rfl : head = own := by simpa [rebuild, callHead?] using hown
          exact ⟨by simp [callHead?], hvalue⟩
        | _ => cases hown
      · obtain ⟨c, hc, hmem⟩ := List.mem_flatMap.mp hpart
        obtain ⟨hcalls, hnone⟩ := ih c hc head hmem
        exact ⟨List.mem_append_right _ (List.mem_flatMap.mpr ⟨c, hc, hcalls⟩), hnone⟩

/-! ## The text -/

/-- A call is placed like the constant that stands for it. -/
theorem placed_answered (n : Node) (op : Operator) (last : Bool) (text : String) :
    placed op last n.answered text = placed op last n text := by
  cases n with
  | call l head params =>
    cases hvalue : head.sessionValue <;> simp [answered, placed, hvalue]
  | _ => rfl

/-- **A value is written in place of its call.** -/
theorem toSql_answered (n : Node) : n.answered.toSql = n.toSql := by
  induction n using Node.induction with
  | step n ih =>
    cases hvalue : n.value? with
    | some value =>
      rw [answered_of_some hvalue]
      cases n with
      | call l head params =>
        have hhead : head.sessionValue = some value := hvalue
        rw [toSql, toSql, callText, hhead]
        rfl
      | _ => cases hvalue
    | none =>
      rw [answered_of_none hvalue]
      exact toSql_rebuild (fun _ => rfl) ih fun c _ => placed_answered c

end Node

/-! ## Two sessions -/

/-- **Two sessions beside each other.** A tree has the same node in both, or the same error, apart
from the values of the calls. Every call has its session's answer; without a function that the
session answers the texts are the same, and in a session with all values no such function is written
as a call. -/
theorem bind_session (config : Config) (s₁ s₂ : Session) (t : Tree) :
    (({ config := config, session := s₁ } : Environment).bind t).map Node.withoutValues =
      (({ config := config, session := s₂ } : Environment).bind t).map Node.withoutValues ∧
    ∀ n₁, ({ config := config, session := s₁ } : Environment).bind t = .ok n₁ →
      (∀ labels head params, Node.Within (.call labels head params) n₁ →
        head.sessionValue = s₁.answer head.id) ∧
      ((∀ labels head params, Node.Within (.call labels head params) n₁ →
          isSession head.id = false) →
        ∀ n₂, ({ config := config, session := s₂ } : Environment).bind t = .ok n₂ →
          n₁.toSql = n₂.toSql) ∧
      (s₁.user.isSome → s₁.database.isSome → s₁.schema.isSome →
        n₁.toSql = n₁.answered.toSql ∧
        ∀ labels head params, Node.Within (.call labels head params) n₁.answered →
          isSession head.id = false) := by
  refine ⟨?_, fun n₁ h₁ => ⟨?_, ?_, ?_⟩⟩
  · exact Environment.map_withoutValues_bind config s₁ s₂ t
  · intro labels head params hcall
    exact Environment.sessionValue_of_bind h₁ (Node.mem_calls_iff.mpr ⟨labels, params, hcall⟩)
  · intro hnone n₂ h₂
    have hids : ∀ head ∈ n₁.calls, isSession head.id = false := by
      intro head hhead
      obtain ⟨labels, params, hcall⟩ := Node.mem_calls_iff.mp hhead
      exact hnone labels head params hcall
    rw [Environment.eq_of_bind h₁ h₂ hids]
  · intro huser hdatabase hschema
    refine ⟨(Node.toSql_answered n₁).symm, fun labels head params hcall => ?_⟩
    obtain ⟨hmem, hvalue⟩ :=
      Node.calls_answered n₁ head (Node.mem_calls_iff.mpr ⟨labels, params, hcall⟩)
    rw [Environment.sessionValue_of_bind h₁ hmem] at hvalue
    rw [← Bool.not_eq_true]
    intro hsession
    have hsome := Session.answer_isSome hsession huser hdatabase hschema
    rw [hvalue] at hsome
    cases hsome

/-- A session with all values. -/
def adasSession : Session :=
  { user := some "ada", database := some "shop", schema := some "sales" }

/-- `COALESCE(a, CURRENT_USER)`. -/
def userOr : Tree :=
  .call (.plain "COALESCE")
    [.identifier [⟨"a", none⟩], .call ⟨"CURRENT_USER", none, none, false⟩ []]

/-- `ABS(a)`. -/
def absolute : Tree :=
  .call (.plain "ABS") [.identifier [⟨"a", none⟩]]

/-- A session with values and one without them: the user stands at its call, and no other node
tells the sessions apart. -/
theorem bind_userOr : ∃ n₁ n₂ m₁ m₂,
    ({ session := adasSession } : Environment).bind userOr = .ok n₁ ∧
    ({} : Environment).bind userOr = .ok n₂ ∧
    n₁.toSql = "COALESCE(a, 'ada')" ∧ n₂.toSql = "COALESCE(a, CURRENT_USER)" ∧
    n₁.toSql = n₁.answered.toSql ∧
    (∀ labels head params, Node.Within (.call labels head params) n₁.answered →
      isSession head.id = false) ∧
    ({ session := adasSession } : Environment).bind absolute = .ok m₁ ∧
    ({} : Environment).bind absolute = .ok m₂ ∧ m₁.toSql = m₂.toSql := by
  obtain ⟨n₁, hn₁, hsql₁⟩ : ∃ n, ({ session := adasSession } : Environment).bind userOr = .ok n ∧
      n.toSql = "COALESCE(a, 'ada')" := ⟨_, rfl, by decide +kernel⟩
  obtain ⟨m₁, hm₁, hids⟩ : ∃ m, ({ session := adasSession } : Environment).bind absolute = .ok m ∧
      ∀ head ∈ m.calls, isSession head.id = false := ⟨_, rfl, by decide +kernel⟩
  obtain ⟨hanswered, hcalls⟩ := ((bind_session {} adasSession {} userOr).2 n₁ hn₁).2.2 rfl rfl rfl
  have habsolute := ((bind_session {} adasSession {} absolute).2 m₁ hm₁).2.1
  refine ⟨n₁, _, m₁, _, hn₁, rfl, hsql₁, by decide +kernel, hanswered, hcalls, hm₁, rfl,
    habsolute ?_ _ rfl⟩
  intro labels head params hcall
  exact hids head (Node.mem_calls_iff.mpr ⟨labels, params, hcall⟩)

end SqlNormal
