import SqlNormal.Proofs.Failure

/-!
# The nesting bound

The levels of a tree are the forms on its longest way down. Lowering fails for its levels exactly
where they exceed the bound, names the first level beyond it, and asks nothing else of the bound.

* `Tree.height`: the levels of a tree; `Tree.height_le_iff` goes down one of them;
* `Environment.withBound`: an environment with another bound;
* `Environment.height_le_of_lower`, `Environment.height_of_lower_tooDeep`,
  `Environment.lower_withBound`: what is lowered, what is too deep, and two bounds compared;
* **`nesting_of_bind`**: the three for a whole tree.
-/

namespace SqlNormal

/-! ## Levels -/

/-- The number of forms on the longest way from the root to a leaf. -/
def Tree.height : Tree → Nat
  | literal _ | identifier _ | countStar _ => 1
  | nested inner => height inner + 1
  | binary left _ right => max (height left) (height right) + 1
  | unary _ operand => height operand + 1
  | isNull operand _ => height operand + 1
  | call _ args => heightList args + 1
  | case operand branches otherwise =>
    max (heightOption operand) (max (heightBranches branches) (heightOption otherwise)) + 1
  | cast operand _ => height operand + 1
  | trim _ characters _ source => max (heightOption characters) (height source) + 1
  | extract _ source => height source + 1
  | substring source start length _ =>
    max (height source) (max (heightOption start) (heightOption length)) + 1
  | position needle haystack => max (height needle) (height haystack) + 1
  | overlay source replacement start length =>
    max (height source)
      (max (height replacement) (max (height start) (heightOption length))) + 1
  | convert operand _ _ style => max (height operand) (heightOption style) + 1
termination_by structural t => t
where
  /-- The levels of the deepest of some trees. -/
  heightList : List Tree → Nat
    | [] => 0
    | t :: ts => max (height t) (heightList ts)
  termination_by structural ts => ts
  /-- The levels of a tree that may be absent. -/
  heightOption : Option Tree → Nat
    | none => 0
    | some t => height t
  termination_by structural t => t
  /-- The levels of the deepest tree of the branches of a CASE. -/
  heightBranches : List (Tree × Tree) → Nat
    | [] => 0
    | (condition, result) :: rest =>
      max (max (height condition) (height result)) (heightBranches rest)
  termination_by structural bs => bs

namespace Tree

theorem heightList_le_iff {ts : List Tree} {m : Nat} :
    height.heightList ts ≤ m ↔ ∀ t ∈ ts, t.height ≤ m := by
  induction ts with
  | nil => simp [height.heightList]
  | cons t ts ih => rw [height.heightList, Nat.max_le, ih, List.forall_mem_cons]

theorem heightOption_le_iff {t : Option Tree} {m : Nat} :
    height.heightOption t ≤ m ↔ ∀ s ∈ t, s.height ≤ m := by
  cases t <;> simp [height.heightOption]

theorem heightBranches_le_iff {bs : List (Tree × Tree)} {m : Nat} :
    height.heightBranches bs ≤ m ↔ ∀ b ∈ bs, b.1.height ≤ m ∧ b.2.height ≤ m := by
  induction bs with
  | nil => simp [height.heightBranches]
  | cons b bs ih => rw [height.heightBranches, Nat.max_le, Nat.max_le, ih, List.forall_mem_cons]

theorem height_pos (t : Tree) : 0 < t.height := by
  cases t <;> simp [height]

/-- A tree has one level more than the deepest of its parts. -/
theorem height_le_iff {t : Tree} {m : Nat} : t.height ≤ m + 1 ↔ ∀ s ∈ t.parts, s.height ≤ m := by
  cases t with
  | case operand branches otherwise =>
    simp only [height, Nat.add_le_add_iff_right, Nat.max_le, heightOption_le_iff,
      heightBranches_le_iff, parts, List.mem_append, List.mem_flatMap, List.mem_cons,
      Option.mem_toList]
    constructor
    · rintro ⟨ho, hbs, he⟩ s ((hs | ⟨b, hb, rfl | rfl | hs⟩) | hs)
      · exact ho s hs
      · exact (hbs b hb).1
      · exact (hbs b hb).2
      · cases hs
      · exact he s hs
    · intro h
      refine ⟨fun s hs => h s (.inl (.inl hs)), fun b hb => ⟨?_, ?_⟩, fun s hs => h s (.inr hs)⟩
      · exact h b.1 (.inl (.inr ⟨b, hb, .inl rfl⟩))
      · exact h b.2 (.inl (.inr ⟨b, hb, .inr (.inl rfl)⟩))
  | _ =>
    simp [height, heightList_le_iff, heightOption_le_iff, or_imp, forall_and]

theorem height_lt_of_mem_parts {s t : Tree} (h : s ∈ t.parts) : s.height < t.height := by
  have hpos := t.height_pos
  have hle : t.height ≤ (t.height - 1) + 1 := by omega
  have := height_le_iff.mp hle s h
  omega

end Tree

namespace Environment

variable {env : Environment} {d : Nat}

/-! ## What is lowered, and what is too deep -/

/-- What is lowered from a level within the bound stays within it. -/
theorem height_le_of_lower (hstd : env.collaborators = .standard) {t : Tree} {n : Node}
    (hd : d ≤ env.config.maxDepth) (h : env.lower d t = .ok n) :
    d + t.height ≤ env.config.maxDepth + 1 := by
  refine lower_induction (P := fun d t _ => d ≤ env.config.maxDepth →
    d + t.height ≤ env.config.maxDepth + 1) hstd ?_ h hd
  intro d t n hstep hd
  obtain ⟨k, hk⟩ : ∃ k, env.config.maxDepth = d + k := ⟨env.config.maxDepth - d, by omega⟩
  suffices hle : t.height ≤ k + 1 by omega
  rw [Tree.height_le_iff]
  intro s hs
  obtain ⟨m, hmax, hheight⟩ := hstep.part hs
  have := hheight hmax
  omega

/-- What is too deep has more levels than the bound, and the first one beyond it is named. -/
theorem height_of_lower_tooDeep (hstd : env.collaborators = .standard) {t : Tree}
    {depth max : Nat} (hd : d ≤ env.config.maxDepth)
    (h : env.lower d t = .error (.tooDeep depth max)) :
    env.config.maxDepth + 1 < d + t.height ∧ depth = env.config.maxDepth + 1 ∧
      max = env.config.maxDepth := by
  refine failure_induction hstd (P := fun d t e => d ≤ env.config.maxDepth →
    e = .tooDeep depth max → env.config.maxDepth + 1 < d + t.height ∧
      depth = env.config.maxDepth + 1 ∧ max = env.config.maxDepth) ?_ ?_ ?_ h hd rfl
  · intro d t e hfault _ he
    exact absurd he (hfault.ne_tooDeep hstd depth max)
  · rintro d t hparts hlt hd ⟨⟩
    obtain ⟨s, hs⟩ := List.exists_mem_of_ne_nil t.parts hparts
    have := s.height_pos
    have := Tree.height_lt_of_mem_parts hs
    omega
  · intro d t e hd' s hs ih _ he
    have := Tree.height_lt_of_mem_parts hs
    obtain ⟨hlt, hnamed⟩ := ih hd' he
    exact ⟨by omega, hnamed⟩

/-! ## Two bounds -/

/-- The environment with another bound. -/
def withBound (env : Environment) (bound : Nat) : Environment :=
  { env with config := { env.config with maxDepth := bound } }

/-- A part within both bounds is lowered in the same way. -/
theorem lowerPart_withBound {bound d' : Nat} {t : Tree} (hd : d + 1 ≤ env.config.maxDepth)
    (hd' : d' + 1 ≤ bound) (h : (env.withBound bound).lower (d' + 1) t = env.lower (d + 1) t) :
    (env.withBound bound).lowerPart d' t = env.lowerPart d t := by
  have hbound : d' + 1 ≤ (env.withBound bound).config.maxDepth := hd'
  rw [lowerPart, lowerPart, descend, descend, if_pos hd, if_pos hbound]
  exact h

section Parts

variable {env' : Environment} {d' : Nat}

theorem bind_lowerPart {β : Type} {t : Tree} (f : Node → Except Error β) :
    (do f (← env.lower (← env.descend d) t)) = env.lowerPart d t >>= f := by
  rw [lowerPart, bind_assoc]

theorem lowerList_congr {ts : List Tree} (h : ∀ t ∈ ts, env'.lowerPart d' t = env.lowerPart d t) :
    lower.lowerList env' d' ts = lower.lowerList env d ts := by
  induction ts with
  | nil => rfl
  | cons t ts ih =>
    have ht := h t List.mem_cons_self
    have hts := ih fun t ht => h t (List.mem_cons_of_mem _ ht)
    simp only [lower.lowerList, bind_lowerPart, ht, hts]

theorem lowerOption_congr {t : Option Tree}
    (h : ∀ s ∈ t, env'.lowerPart d' s = env.lowerPart d s) :
    lower.lowerOption env' d' t = lower.lowerOption env d t := by
  cases t with
  | none => rfl
  | some t => simp only [lower.lowerOption, bind_lowerPart, h t rfl]

theorem lowerBranches_congr (hstd : env.collaborators = .standard)
    (hstd' : env'.collaborators = .standard) {tested : Option Node} {bs : List (Tree × Tree)}
    (h : ∀ b ∈ bs, env'.lowerPart d' b.1 = env.lowerPart d b.1 ∧
      env'.lowerPart d' b.2 = env.lowerPart d b.2) :
    lower.lowerBranches env' d' tested bs = lower.lowerBranches env d tested bs := by
  induction bs with
  | nil => rfl
  | cons b bs ih =>
    obtain ⟨condition, result⟩ := b
    obtain ⟨hcondition, hresult⟩ := h (condition, result) List.mem_cons_self
    have hbs := ih fun b hb => h b (List.mem_cons_of_mem _ hb)
    cases tested with
    | some operand =>
      simp only [lower.lowerBranches, bind_lowerPart, hcondition, hresult, hbs, hstd, hstd']
    | none =>
      have hlowered : (do env'.lower (← env'.descend d') condition) =
          (do env.lower (← env.descend d) condition) := hcondition
      simp only [lower.lowerBranches, bind_lowerPart, hlowered, hresult, hbs, hstd, hstd',
        Collaborators.standard]

end Parts

/-- From two levels within two bounds, a tree is lowered in the same way. -/
theorem lower_withBound_level (hstd : env.collaborators = .standard) {bound d' : Nat} {t : Tree}
    (h : d + t.height ≤ env.config.maxDepth + 1) (h' : d' + t.height ≤ bound + 1) :
    (env.withBound bound).lower d' t = env.lower d t := by
  induction t using Tree.induction generalizing d d' with
  | step t ih =>
    have part : ∀ s ∈ t.parts, (env.withBound bound).lowerPart d' s = env.lowerPart d s := by
      intro s hs
      have hlt := Tree.height_lt_of_mem_parts hs
      have hpos := s.height_pos
      exact lowerPart_withBound (by omega) (by omega) (ih s hs (by omega) (by omega))
    cases t with
    | literal l => cases l <;> rfl
    | identifier parts => rfl
    | nested inner =>
      have := part inner (by simp)
      simp only [lower, bind_lowerPart, this]
    | binary l op r =>
      have hl := part l (by simp)
      have hr := part r (by simp)
      simp only [lower, bind_lowerPart, hl, hr]
      rfl
    | unary op operand | isNull operand negated =>
      simp only [lower, bind_lowerPart, part operand (by simp)]
    | call spelling args =>
      have hargs : lower.lowerList (env.withBound bound) d' args = lower.lowerList env d args :=
        lowerList_congr part
      simp only [lower, hargs]
      rfl
    | countStar keyword => rfl
    | case operand branches otherwise =>
      have ho : lower.lowerOption (env.withBound bound) d' operand =
          lower.lowerOption env d operand := lowerOption_congr fun s hs => part s (by simp_all)
      have he : lower.lowerOption (env.withBound bound) d' otherwise =
          lower.lowerOption env d otherwise := lowerOption_congr fun s hs => part s (by simp_all)
      have hbs : ∀ tested, lower.lowerBranches (env.withBound bound) d' tested branches =
          lower.lowerBranches env d tested branches := by
        intro tested
        have hstd' : (env.withBound bound).collaborators = .standard := hstd
        refine lowerBranches_congr hstd hstd' fun b hb => ?_
        exact ⟨part _ (Tree.mem_parts_case hb).1, part _ (Tree.mem_parts_case hb).2⟩
      simp only [lower, ho, hbs, he]
    | cast operand target =>
      simp only [lower, bind_lowerPart, part operand (by simp)]
      rfl
    | trim spec characters hasFrom source =>
      have hc : lower.lowerOption (env.withBound bound) d' characters =
          lower.lowerOption env d characters := lowerOption_congr fun s hs => part s (by simp_all)
      simp only [lower, bind_lowerPart, hc, part source (by simp)]
      rfl
    | extract fieldToken source =>
      simp only [lower, bind_lowerPart, part source (by simp)]
      rfl
    | substring source start length keywordForm =>
      have hs : lower.lowerOption (env.withBound bound) d' start =
          lower.lowerOption env d start := lowerOption_congr fun s hs => part s (by simp_all)
      have hl : lower.lowerOption (env.withBound bound) d' length =
          lower.lowerOption env d length := lowerOption_congr fun s hs => part s (by simp_all)
      simp only [lower, bind_lowerPart, hs, hl, part source (by simp)]
      rfl
    | position needle haystack =>
      simp only [lower, bind_lowerPart, part needle (by simp), part haystack (by simp)]
      rfl
    | overlay source replacement start length =>
      have hl : lower.lowerOption (env.withBound bound) d' length =
          lower.lowerOption env d length := lowerOption_congr fun s hs => part s (by simp_all)
      simp only [lower, bind_lowerPart, hl, part source (by simp), part replacement (by simp),
        part start (by simp)]
      rfl
    | convert operand charset target style =>
      have hs : lower.lowerOption (env.withBound bound) d' style =
          lower.lowerOption env d style := lowerOption_congr fun s hs => part s (by simp_all)
      simp only [lower, bind_lowerPart, hs, part operand (by simp)]
      rfl

/-- Within the bound, a larger bound changes nothing. -/
theorem lower_withBound (hstd : env.collaborators = .standard) {bound : Nat}
    (hbound : env.config.maxDepth ≤ bound) {t : Tree}
    (h : d + t.height ≤ env.config.maxDepth + 1) :
    (env.withBound bound).lower d t = env.lower d t :=
  lower_withBound_level hstd h (by omega)

/-- Within the bound, the level from which a tree is lowered makes no difference. -/
theorem lower_level (hstd : env.collaborators = .standard) {d' : Nat} {t : Tree}
    (h : d + t.height ≤ env.config.maxDepth + 1) (h' : d' + t.height ≤ env.config.maxDepth + 1) :
    env.lower d' t = env.lower d t :=
  lower_withBound_level hstd h h'

end Environment

/-- **The bound on the levels is exact.** What is bound has no more levels than the bound; what is
refused for its levels has more of them, and the first one beyond the bound is named; and what has
no more levels than the bound gives the same under every larger bound. -/
theorem nesting_of_bind (config : Config) (session : Session) (hpos : 1 ≤ config.maxDepth)
    (t : Tree) :
    (∀ n, ({ config := config, session := session } : Environment).bind t = .ok n →
      t.height ≤ config.maxDepth) ∧
    (∀ depth max, ({ config := config, session := session } : Environment).bind t =
        .error (.tooDeep depth max) →
      config.maxDepth < t.height ∧ depth = config.maxDepth + 1 ∧ max = config.maxDepth) ∧
    (t.height ≤ config.maxDepth → ∀ bound, config.maxDepth ≤ bound →
      ({ config := { config with maxDepth := bound }, session := session } : Environment).bind t =
        ({ config := config, session := session } : Environment).bind t) := by
  refine ⟨fun n h => ?_, fun depth max h => ?_, fun hheight bound hbound => ?_⟩
  · have hlevels := Environment.height_le_of_lower rfl hpos h
    have hmax : 1 + t.height ≤ config.maxDepth + 1 := hlevels
    omega
  · have hlevels := Environment.height_of_lower_tooDeep rfl hpos h
    have hmax : config.maxDepth + 1 < 1 + t.height := hlevels.1
    exact ⟨by omega, hlevels.2⟩
  · have hstd : ({ config := config, session := session } : Environment).collaborators =
      .standard := rfl
    have hlevels : 1 + t.height ≤ config.maxDepth + 1 := by omega
    exact Environment.lower_withBound hstd hbound hlevels

/-- `((x))` has three levels, so every bound from three on gives what the bound of three gives, and
with a bound of two the third level is named. -/
theorem nesting_of_nestedTwice :
    let t := Tree.nested (.nested (.identifier [{ value := "x", quote := none }]))
    1 ≤ (3 : Nat) ∧ t.height = 3 ∧
    (∀ bound, 3 ≤ bound → ({ config := { maxDepth := bound }, session := {} } : Environment).bind t =
      ({ config := { maxDepth := 3 }, session := {} } : Environment).bind t) ∧
    ({ config := { maxDepth := 2 }, session := {} } : Environment).bind t =
      .error (.tooDeep 3 2) := by
  refine ⟨by decide, rfl, fun bound hbound => ?_, rfl⟩
  have h := nesting_of_bind { maxDepth := 3 } {} (by decide)
    (.nested (.nested (.identifier [{ value := "x", quote := none }])))
  exact h.2.2 (by decide) bound hbound

end SqlNormal
