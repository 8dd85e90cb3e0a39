import RefereeGrading.Proofs.Ratios
import RefereeGrading.Proofs.Matching

/-!
# Scores per command

Names are told apart exactly as codes are, and no code is named `NONE`, so the groups split the
judgements and come once each, in order of their names. Scoring per command fails exactly when
scoring the whole list fails, and otherwise the counts of the groups add up to the counts of
the whole list.
-/

namespace RefereeGrading

/-! ## Command names -/

theorem commandName_of_lt {n : Nat} (named : n < commandNames.length) :
    commandName n = commandNames[n] := by
  simp [commandName, named]

theorem commandName_mem {code : Int} (named : 0 ≤ code ∧ code < commandNames.length) :
    commandName code ∈ commandNames := by
  obtain ⟨n, rfl⟩ := Int.eq_ofNat_of_zero_le named.1
  rw [commandName_of_lt (by omega)]
  exact List.getElem_mem _

theorem commandName_of_not_named {code : Int}
    (unnamed : ¬(0 ≤ code ∧ code < commandNames.length)) :
    commandName code = "UNKNOWN_" ++ toString code := by
  cases code with
  | ofNat n =>
      have beyond : commandNames.length ≤ n := by
        rw [Int.ofNat_eq_natCast] at unnamed
        omega
      simp [commandName, List.getElem?_eq_none beyond]
  | negSucc n =>
      rfl

theorem commandNames_nodup : commandNames.Nodup := by
  decide

theorem commandNames_head_ne : ∀ name ∈ commandNames, name.toList.head? ≠ some 'U' := by
  simp [commandNames]

theorem head_unknown (text : String) : ("UNKNOWN_" ++ text).toList.head? = some 'U' := by
  simp

theorem commandName_ne_of_named {code other : Int} (named : 0 ≤ code ∧ code < commandNames.length)
    (unnamed : ¬(0 ≤ other ∧ other < commandNames.length)) :
    commandName code ≠ commandName other := by
  rw [commandName_of_not_named unnamed]
  intro same
  exact commandNames_head_ne _ (same ▸ commandName_mem named) (head_unknown _)

/-- Two codes have the same name only if they are the same code. -/
theorem commandName_injective : Function.Injective commandName := by
  intro first second sameName
  by_cases firstNamed : 0 ≤ first ∧ first < commandNames.length <;>
    by_cases secondNamed : 0 ≤ second ∧ second < commandNames.length
  · -- both named: the names are distinct entries of the table
    obtain ⟨n, rfl⟩ := Int.eq_ofNat_of_zero_le firstNamed.1
    obtain ⟨k, rfl⟩ := Int.eq_ofNat_of_zero_le secondNamed.1
    rw [commandName_of_lt (by omega), commandName_of_lt (by omega),
      commandNames_nodup.getElem_inj_iff] at sameName
    rw [sameName]
  · exact absurd sameName (commandName_ne_of_named firstNamed secondNamed)
  · exact absurd sameName.symm (commandName_ne_of_named secondNamed firstNamed)
  · -- both unknown: the codes are written in full after the same prefix
    rw [commandName_of_not_named firstNamed, commandName_of_not_named secondNamed,
      String.append_right_inj] at sameName
    exact Int.repr_inj.1 sameName

theorem commandName_ne_none (code : Int) : commandName code ≠ "NONE" := by
  intro isNone
  by_cases named : 0 ≤ code ∧ code < commandNames.length
  · have member := commandName_mem named
    rw [isNone] at member
    simp [commandNames] at member
  · rw [commandName_of_not_named named] at isNone
    have heads := congrArg (fun name : String => name.toList.head?) isNone
    simp at heads

/-! ## Partitions by a key -/

section Partition

variable {α β : Type} [DecidableEq β]

/-- Counting over the groups of a key adds up to counting over the whole list, when every key of
the list is listed once. -/
theorem sum_countP_filter_key (key : α → β) (p : α → Bool) {keys : List β} (nodup : keys.Nodup)
    (items : List α) (covered : ∀ item ∈ items, key item ∈ keys) :
    (keys.map fun k => (items.filter fun item => key item = k).countP p).sum = items.countP p := by
  induction items with
  | nil =>
      simp
  | cons item rest inductionHypothesis =>
      have restSum := inductionHypothesis fun other member =>
        covered other (List.mem_cons_of_mem item member)
      have once : keys.count (key item) = 1 :=
        List.count_eq_one_of_mem nodup (covered item List.mem_cons_self)
      -- the item counts in the group of its own key and nowhere else
      have split : ∀ k, ((item :: rest).filter fun other => key other = k).countP p =
          (rest.filter fun other => key other = k).countP p +
            if key item = k then (if p item then 1 else 0) else 0 := by
        intro k
        by_cases same : key item = k <;> simp [same, List.countP_cons]
      have single :
          (keys.map fun k => if key item = k then (if p item then 1 else 0) else 0).sum =
            if p item then 1 else 0 := by
        rw [List.sum_map_eq_nsmul_single (key item) _
          fun other different _ => by simp [Ne.symm different], once]
        simp
      simp only [split, List.sum_map_add, restSum, single, List.countP_cons]

end Partition

section Traversal

variable {α β ε : Type}

theorem mapM_eq_ok_map {f : α → Except ε β} {g : α → β} (keys : List α)
    (each : ∀ key ∈ keys, f key = .ok (g key)) : keys.mapM f = .ok (keys.map g) := by
  induction keys with
  | nil =>
      rfl
  | cons key rest inductionHypothesis =>
      rw [List.mapM_cons, each key List.mem_cons_self,
        inductionHypothesis fun other member => each other (List.mem_cons_of_mem key member)]
      rfl

theorem mapM_eq_error_of_mem {f : α → Except ε β} {keys : List α} {key : α} {problem : ε}
    (member : key ∈ keys) (fails : f key = .error problem) :
    ∃ first, keys.mapM f = .error first := by
  induction keys with
  | nil =>
      cases member
  | cons head rest inductionHypothesis =>
      rw [List.mapM_cons]
      cases headResult : f head with
      | error headProblem =>
          exact ⟨headProblem, rfl⟩
      | ok value =>
          rcases List.mem_cons.1 member with rfl | later
          · rw [fails] at headResult
            cases headResult
          · obtain ⟨first, restFails⟩ := inductionHypothesis later
            exact ⟨first, by simp [restFails]⟩

end Traversal

/-! ## The names judgements are filed under -/

namespace Score

theorem mem_insertKey {key name : String} {keys : List String} :
    name ∈ insertKey key keys ↔ name = key ∨ name ∈ keys := by
  induction keys with
  | nil =>
      simp [insertKey]
  | cons first rest inductionHypothesis =>
      unfold insertKey
      split_ifs with same
      · subst same
        simp
      · simp
      · simp only [List.mem_cons, inductionHypothesis]
        exact or_left_comm

theorem pairwise_insertKey (key : String) {keys : List String}
    (sorted : keys.Pairwise (· < ·)) : (insertKey key keys).Pairwise (· < ·) := by
  induction keys with
  | nil =>
      simp [insertKey]
  | cons first rest inductionHypothesis =>
      have ⟨firstBelow, restSorted⟩ := List.pairwise_cons.1 sorted
      unfold insertKey
      split_ifs with same below
      · exact sorted
      · -- the new name goes in front
        refine List.pairwise_cons.2 ⟨fun name member => ?_, sorted⟩
        rcases List.mem_cons.1 member with rfl | later
        · exact below
        · exact lt_trans below (firstBelow name later)
      · -- the new name goes further on, after `first`
        have above : first < key := lt_of_le_of_ne (not_lt.1 below) (Ne.symm same)
        refine List.pairwise_cons.2 ⟨fun name member => ?_, inductionHypothesis restSorted⟩
        rcases mem_insertKey.1 member with rfl | later
        · exact above
        · exact firstBelow name later

variable (judgements : List Judgement)

theorem commandKeys_eq_foldl :
    commandKeys judgements = judgements.foldl (fun keys j => insertKey (commandKey j) keys) [] :=
  rfl

theorem mem_foldl_insertKey {start : List String} {name : String} :
    name ∈ judgements.foldl (fun keys j => insertKey (commandKey j) keys) start ↔
      name ∈ start ∨ ∃ judgement ∈ judgements, commandKey judgement = name := by
  induction judgements generalizing start with
  | nil =>
      simp
  | cons judgement rest inductionHypothesis =>
      rw [List.foldl_cons, inductionHypothesis, mem_insertKey]
      simp only [List.mem_cons, exists_eq_or_imp]
      constructor
      · rintro ((rfl | started) | filed)
        · exact Or.inr (Or.inl rfl)
        · exact Or.inl started
        · exact Or.inr (Or.inr filed)
      · rintro (started | named | filed)
        · exact Or.inl (Or.inr started)
        · exact Or.inl (Or.inl named.symm)
        · exact Or.inr filed

theorem pairwise_foldl_insertKey {start : List String} (sorted : start.Pairwise (· < ·)) :
    (judgements.foldl (fun keys j => insertKey (commandKey j) keys) start).Pairwise (· < ·) := by
  induction judgements generalizing start with
  | nil =>
      exact sorted
  | cons judgement rest inductionHypothesis =>
      exact inductionHypothesis (pairwise_insertKey _ sorted)

theorem mem_commandKeys {name : String} :
    name ∈ commandKeys judgements ↔ ∃ judgement ∈ judgements, commandKey judgement = name := by
  simp [commandKeys_eq_foldl, mem_foldl_insertKey]

theorem commandKeys_sorted : (commandKeys judgements).Pairwise (· < ·) :=
  pairwise_foldl_insertKey judgements List.Pairwise.nil

theorem commandKeys_nodup : (commandKeys judgements).Nodup :=
  (commandKeys_sorted judgements).imp ne_of_lt

/-! ## Scores of the groups -/

/-- The judgements filed under a name. -/
def filedUnder (name : String) : List Judgement :=
  judgements.filter fun judgement => commandKey judgement = name

/-- What classified judgements tally to. -/
def classifiedTally : Tally :=
  { truePositives := scoredCount .truePositive judgements
    falsePositives := scoredCount .falsePositive judgements
    falseNegatives := scoredCount .falseNegative judgements
    ignored := judgements.countP (·.ignore) }

variable {judgements}

theorem ofJudgements_of_classified (classified : Classified judgements) :
    ofJudgements judgements = .ok (ofTally (classifiedTally judgements)) := by
  rw [ofJudgements, Tally.ofJudgements_eq_ok classified]
  rfl

theorem ofJudgements_isError_iff :
    (∃ problem, ofJudgements judgements = .error problem) ↔ ¬Classified judgements := by
  constructor
  · rintro ⟨problem, fails⟩ classified
    rw [ofJudgements_of_classified classified] at fails
    cases fails
  · intro unclassified
    cases counted : Tally.ofJudgements judgements with
    | error problem =>
        exact ⟨problem, by rw [ofJudgements, counted]; rfl⟩
    | ok tally =>
        exact absurd (Tally.classified_of_countFrom_eq_ok counted) unclassified

theorem byCommand_of_classified (classified : Classified judgements) :
    byCommand judgements = .ok ((commandKeys judgements).map fun name =>
      (name, ofTally (classifiedTally (filedUnder judgements name)))) := by
  apply mapM_eq_ok_map
  intro name _
  rw [ofJudgements_of_classified (classified.filter _)]
  rfl

theorem byCommand_isError_iff :
    (∃ problem, byCommand judgements = .error problem) ↔
      ∃ problem, ofJudgements judgements = .error problem := by
  rw [ofJudgements_isError_iff]
  constructor
  · rintro ⟨problem, fails⟩ classified
    rw [byCommand_of_classified classified] at fails
    cases fails
  · intro unclassified
    obtain ⟨stopper, member, unignored, isUnclassified⟩ : ∃ judgement ∈ judgements,
        judgement.ignore = false ∧ judgement.verdict = .unclassified := by
      simpa [Classified] using unclassified
    have groupUnclassified : ¬Classified (filedUnder judgements (commandKey stopper)) :=
      fun classified => classified stopper (List.mem_filter.2 ⟨member, by simp⟩) unignored
        isUnclassified
    obtain ⟨problem, groupFails⟩ := ofJudgements_isError_iff.2 groupUnclassified
    exact mapM_eq_error_of_mem ((mem_commandKeys judgements).2 ⟨stopper, member, rfl⟩)
      (show (ofJudgements (filedUnder judgements (commandKey stopper))).map _ = .error problem by
        rw [groupFails]; rfl)

theorem sum_countP_filedUnder (p : Judgement → Bool) :
    ((commandKeys judgements).map fun name => (filedUnder judgements name).countP p).sum =
      judgements.countP p :=
  sum_countP_filter_key commandKey p (commandKeys_nodup judgements) judgements
    fun judgement member => (mem_commandKeys judgements).2 ⟨judgement, member, rfl⟩

variable {groups : List (String × Score)}

theorem classified_of_byCommand_eq_ok (sliced : byCommand judgements = .ok groups) :
    Classified judgements := by
  by_contra unclassified
  obtain ⟨problem, fails⟩ := byCommand_isError_iff.2 (ofJudgements_isError_iff.2 unclassified)
  rw [fails] at sliced
  cases sliced

theorem eq_of_byCommand_eq_ok (sliced : byCommand judgements = .ok groups) :
    groups = (commandKeys judgements).map fun name =>
      (name, ofTally (classifiedTally (filedUnder judgements name))) := by
  rw [byCommand_of_classified (classified_of_byCommand_eq_ok sliced), Except.ok.injEq] at sliced
  exact sliced.symm

theorem names_of_byCommand_eq_ok (sliced : byCommand judgements = .ok groups) :
    groups.map Prod.fst = commandKeys judgements := by
  rw [eq_of_byCommand_eq_ok sliced]
  simp [Function.comp_def]

theorem ofJudgements_filedUnder (sliced : byCommand judgements = .ok groups)
    {group : String × Score} (member : group ∈ groups) :
    ofJudgements (filedUnder judgements group.1) = .ok group.2 := by
  rw [eq_of_byCommand_eq_ok sliced] at member
  obtain ⟨name, _, rfl⟩ := List.mem_map.1 member
  exact ofJudgements_of_classified ((classified_of_byCommand_eq_ok sliced).filter _)

theorem sum_count_of_byCommand_eq_ok (sliced : byCommand judgements = .ok groups)
    {count : Tally → Nat} {p : Judgement → Bool}
    (counts : ∀ others, count (classifiedTally others) = others.countP p) :
    (groups.map fun group => count group.2.tally).sum = count (classifiedTally judgements) := by
  rw [eq_of_byCommand_eq_ok sliced, counts]
  simp only [List.map_map, Function.comp_def, tally_ofTally, counts]
  exact sum_countP_filedUnder p

end Score

/-- Scoring per command fails exactly when scoring the whole list fails. Otherwise the groups
come once each in increasing code-point order of their names, every name is that of some
judgement, each judgement's name names exactly one group, a group scores exactly the judgements
filed under its name, and the counts of the groups add up, verdict by verdict and for the ignored
ones, to the counts of the whole list. Command names are told apart as codes are, and none is
`NONE`. On an alignment every true positive pairs two calls of one code and is filed under that
code's name. -/
theorem score_per_command_splits_the_score (judgements : List Judgement) :
    ((∃ problem, Score.byCommand judgements = .error problem) ↔
        ∃ problem, Score.ofJudgements judgements = .error problem) ∧
    (∀ groups, Score.byCommand judgements = .ok groups →
      (groups.map Prod.fst).Pairwise (· < ·) ∧
      (∀ name ∈ groups.map Prod.fst, ∃ judgement ∈ judgements, Score.commandKey judgement = name) ∧
      (∀ judgement ∈ judgements, (groups.map Prod.fst).count (Score.commandKey judgement) = 1) ∧
      (∀ group ∈ groups, Score.ofJudgements
          (judgements.filter fun judgement => Score.commandKey judgement = group.1) = .ok group.2) ∧
      ∃ score, Score.ofJudgements judgements = .ok score ∧
        (groups.map fun group => group.2.tally.truePositives).sum = score.tally.truePositives ∧
        (groups.map fun group => group.2.tally.falsePositives).sum = score.tally.falsePositives ∧
        (groups.map fun group => group.2.tally.falseNegatives).sum = score.tally.falseNegatives ∧
        (groups.map fun group => group.2.tally.ignored).sum = score.tally.ignored) ∧
    Function.Injective commandName ∧ (∀ code, commandName code ≠ "NONE") ∧
    ∀ tolerance flushTrailing humans calls,
      ∀ judgement ∈ align tolerance flushTrailing humans calls,
        judgement.verdict = .truePositive →
        ∃ call human, judgement.automatic = some call ∧ judgement.human = some human ∧
          call.code = human.code ∧ Score.commandKey judgement = commandName call.code := by
  refine ⟨Score.byCommand_isError_iff, fun groups sliced => ?_, commandName_injective,
    commandName_ne_none, ?_⟩
  · have names := Score.names_of_byCommand_eq_ok sliced
    have classified := Score.classified_of_byCommand_eq_ok sliced
    refine ⟨names ▸ Score.commandKeys_sorted judgements,
      fun name member => (Score.mem_commandKeys judgements).1 (names ▸ member),
      fun judgement member => names ▸ List.count_eq_one_of_mem (Score.commandKeys_nodup judgements)
        ((Score.mem_commandKeys judgements).2 ⟨judgement, member, rfl⟩),
      fun group member => Score.ofJudgements_filedUnder sliced member,
      _, Score.ofJudgements_of_classified classified, ?_, ?_, ?_, ?_⟩
    all_goals
      rw [Score.tally_ofTally]
      exact Score.sum_count_of_byCommand_eq_ok sliced fun _ => rfl
  · -- a true positive carries the automatic call it was made for, and a human call of its code
    intro tolerance flushTrailing humans calls judgement member truePositive
    obtain ⟨call, -, human, -, rfl, -, sameCode⟩ :=
      matched_of_mem_align tolerance flushTrailing member truePositive
    exact ⟨call, human, rfl, rfl, sameCode.symm, rfl⟩

/-- Two yellow goals both referees called, and a blue direct free kick that each called alone. -/
def twoGoalsAndAFreeKick : List Judgement :=
  [Judgement.matched ⟨0, 10, 1, 14⟩ ⟨0, 10, 1, 14⟩, Judgement.matched ⟨0, 20, 2, 14⟩ ⟨0, 20, 2, 14⟩,
    Judgement.unmatched ⟨0, 30, 3, 9⟩, Judgement.missed ⟨0, 40, 4, 9⟩]

theorem score_per_command_splits_the_score_goals :
    (∃ groups, Score.byCommand twoGoalsAndAFreeKick = .ok groups ∧
      groups.map Prod.fst = ["DIRECT_FREE_BLUE", "GOAL_YELLOW"] ∧
      (groups.map fun group => group.2.tally.truePositives).sum = 2 ∧
      (groups.map fun group => group.2.tally.falsePositives).sum = 1 ∧
      (groups.map fun group => group.2.tally.falseNegatives).sum = 1) ∧
    Score.commandKey (Judgement.matched ⟨120, 160, 1, 15⟩ ⟨100, 150, 1, 15⟩) = "GOAL_BLUE" := by
  have tallied : Tally.ofJudgements twoGoalsAndAFreeKick = .ok ⟨2, 1, 1, 0⟩ := by
    decide
  have scored : Score.ofJudgements twoGoalsAndAFreeKick = .ok (Score.ofTally ⟨2, 1, 1, 0⟩) := by
    rw [Score.ofJudgements, tallied]
    rfl
  obtain ⟨errors, splits, -, -, filed⟩ := score_per_command_splits_the_score twoGoalsAndAFreeKick
  obtain ⟨groups, sliced⟩ : ∃ groups, Score.byCommand twoGoalsAndAFreeKick = .ok groups := by
    cases sliced : Score.byCommand twoGoalsAndAFreeKick with
    | error problem =>
        obtain ⟨_, fails⟩ := errors.1 ⟨problem, sliced⟩
        rw [scored] at fails
        cases fails
    | ok groups =>
        exact ⟨groups, rfl⟩
  obtain ⟨-, -, -, -, score, scoredAgain, truePositives, falsePositives, falseNegatives, -⟩ :=
    splits groups sliced
  rw [scored, Except.ok.injEq] at scoredAgain
  subst scoredAgain
  have names : groups.map Prod.fst = ["DIRECT_FREE_BLUE", "GOAL_YELLOW"] := by
    rw [Score.names_of_byCommand_eq_ok sliced]
    decide
  refine ⟨⟨groups, sliced, names, truePositives, falsePositives, falseNegatives⟩, ?_⟩
  obtain ⟨call, human, automatic, -, -, key⟩ :=
    filed {} true [⟨100, 150, 1, 15⟩] [⟨120, 160, 1, 15⟩]
      (Judgement.matched ⟨120, 160, 1, 15⟩ ⟨100, 150, 1, 15⟩) (by decide) rfl
  cases automatic
  rw [key]
  decide

end RefereeGrading
