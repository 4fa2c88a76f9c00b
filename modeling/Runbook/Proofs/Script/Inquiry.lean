import Mathlib.Data.List.TakeWhile
import Runbook.Proofs.Script.Fill

set_option autoImplicit false

namespace Runbook

variable {σ : Type}

structure Overheard (σ : Type) where
  said : List (String × Except InputError Value)
  inner : σ

def Asker.overheard (ask : Asker σ) : Asker (Overheard σ) := fun question overheard =>
  let (reply, later) := ask question overheard.inner
  (reply, ⟨overheard.said ++ [(question, reply)], later⟩)

def Script.keys (script : Script) : List String := (script.holes.map Hole.key).eraseDups

theorem eraseDups_nodup (keys : List String) : keys.eraseDups.Nodup := by
  match keys with
  | [] => exact List.nodup_nil
  | key :: rest =>
    rw [List.eraseDups_cons]
    exact List.nodup_cons.mpr ⟨by simp, eraseDups_nodup _⟩
termination_by keys.length
decreasing_by simpa using Nat.lt_succ_of_le (List.length_filter_le _ rest)

theorem eraseDups_filter (keep : String → Bool) (keys : List String) :
    (keys.filter keep).eraseDups = keys.eraseDups.filter keep := by
  match keys with
  | [] => rfl
  | key :: rest =>
    have ih := eraseDups_filter keep (rest.filter fun other => !other == key)
    rw [List.eraseDups_cons]
    by_cases kept : keep key = true
    next =>
      rw [List.filter_cons_of_pos kept, List.filter_cons_of_pos kept, List.eraseDups_cons, ← ih,
        List.filter_filter, List.filter_filter]
      simp only [Bool.and_comm]
    next =>
      have others : (rest.filter fun other => !other == key).filter keep = rest.filter keep := by
        rw [List.filter_filter]
        apply List.filter_congr
        intro other _
        by_cases same : other = key <;> simp [same, kept]
      rw [List.filter_cons_of_neg kept, List.filter_cons_of_neg kept, ← ih, others]
termination_by keys.length
decreasing_by simpa using Nat.lt_succ_of_le (List.length_filter_le _ rest)

namespace Inquiry

def mapSource {τ : Type} (view : σ → τ) (inquiry : Inquiry σ) : Inquiry τ :=
  ⟨inquiry.answers, inquiry.filled, inquiry.failure?, view inquiry.source⟩

def Answers (ask : Asker σ) (value? : Hole → Option Value) :
    Inquiry σ → List Hole → Inquiry σ → Prop
  | first, [], last => last = first
  | first, hole :: rest, last => ∃ next,
    answer ask first (.hole hole.key) = (hole.argument (value? hole), next) ∧
      Answers ask value? next rest last

theorem answers_append {ask : Asker σ} {value? : Hole → Option Value} {first last : Inquiry σ}
    {front back : List Hole} :
    Answers ask value? first (front ++ back) last ↔
      ∃ middle, Answers ask value? first front middle ∧ Answers ask value? middle back last := by
  induction front generalizing first with
  | nil => simp [Answers]
  | cons hole rest ih =>
    simp only [List.cons_append, Answers, ih]
    constructor
    next =>
      rintro ⟨next, answered, middle, front, back⟩
      exact ⟨middle, ⟨next, answered, front⟩, back⟩
    next =>
      rintro ⟨middle, ⟨next, answered, front⟩, back⟩
      exact ⟨next, answered, middle, front, back⟩

theorem answers_congr {ask : Asker σ} {chosen chosen' : Hole → Option Value}
    {first last : Inquiry σ} {holes : List Hole}
    (agree : ∀ hole ∈ holes, chosen hole = chosen' hole)
    (answers : Answers ask chosen first holes last) : Answers ask chosen' first holes last := by
  induction holes generalizing first with
  | nil => exact answers
  | cons hole rest ih =>
    obtain ⟨here, later⟩ := List.forall_mem_cons.mp agree
    obtain ⟨next, answered, others⟩ := answers
    exact ⟨next, here ▸ answered, ih later others⟩

theorem answerStatement_of_answers {ask : Asker σ} {value? : Hole → Option Value}
    {first last : Inquiry σ} {position : Nat} {statement : Statement}
    (answers : Answers ask value? first (statement.holesAt position) last) :
    answerStatement ask first statement = (statement.fillWith value? position, last) := by
  have walked : Dict.walk (answer ask) first statement.call.arguments.entries =
      (statement.call.arguments.entries.map fun entry =>
        (entry.1, entry.2.fillWith value? position entry.1), last) := by
    simp only [Statement.holesAt, Call.holes] at answers
    generalize statement.call.arguments.entries = entries at answers ⊢
    induction entries generalizing first with
    | nil =>
      obtain rfl : last = first := answers
      rfl
    | cons entry rest ih =>
      obtain ⟨parameter, argument⟩ := entry
      cases argument with
      | given value =>
        simp only [Dict.walk, answer, ih answers]
        rfl
      | hole key =>
        obtain ⟨next, answered, others⟩ := answers
        simp only [Dict.walk, answered, ih others]
        rfl
  simp only [answerStatement, Dict.mapState, walked]
  rfl

theorem answerStatements_of_answers {ask : Asker σ} {value? : Hole → Option Value}
    {first last : Inquiry σ} {position : Nat} {statements : List Statement}
    (answers : Answers ask value? first (Script.holesFrom position statements) last) :
    answerStatements ask first statements =
      (Script.fillFrom value? position statements, last) := by
  induction statements generalizing first position with
  | nil =>
    obtain rfl : last = first := answers
    rfl
  | cons statement rest ih =>
    obtain ⟨middle, here, later⟩ := answers_append.mp answers
    simp only [answerStatements, answerStatement_of_answers here, ih later, Script.fillFrom]

theorem inquire_of_answers {ask : Asker σ} {source : σ} {script : Script}
    {value? : Hole → Option Value} {last : Inquiry σ}
    (answers : Answers ask value? ⟨∅, 0, none, source⟩ script.holes last) :
    script.inquire ask source = (script.fillWith value?, last) := by
  simp only [Script.inquire, answerStatements_of_answers answers, Script.fillWith]

theorem answer_overheard (ask : Asker σ) (inquiry : Inquiry (Overheard σ)) (argument : Argument) :
    answer ask (inquiry.mapSource Overheard.inner) argument =
      ((answer ask.overheard inquiry argument).1,
        (answer ask.overheard inquiry argument).2.mapSource Overheard.inner) := by
  cases argument with
  | given value => rfl
  | hole key =>
    by_cases failed : inquiry.failure?.isSome = true
    next => simp [answer, mapSource, failed]
    next =>
      cases known : inquiry.answers.get? key with
      | some value => simp [answer, mapSource, failed, known]
      | none =>
        rcases reply : ask (question key) inquiry.source.inner with ⟨failure | value, later⟩ <;>
          simp [answer, mapSource, failed, known, Asker.overheard, reply]

theorem answers_of_overheard {ask : Asker σ} {value? : Hole → Option Value}
    {first last : Inquiry (Overheard σ)} {holes : List Hole}
    (answers : Answers ask.overheard value? first holes last) :
    Answers ask value? (first.mapSource Overheard.inner) holes
      (last.mapSource Overheard.inner) := by
  induction holes generalizing first with
  | nil => exact congrArg (mapSource Overheard.inner) answers
  | cons hole rest ih =>
    obtain ⟨next, answered, others⟩ := answers
    refine ⟨next.mapSource Overheard.inner, ?_, ih others⟩
    rw [answer_overheard, answered]

structure Dialogue where
  answers : List (String × Value)
  failed? : Option (String × InputError)

namespace Dialogue

def said (dialogue : Dialogue) : List (String × Except InputError Value) :=
  dialogue.answers.map (fun answer => (question answer.1, .ok answer.2)) ++
    (dialogue.failed?.map fun failed => (question failed.1, .error failed.2)).toList

def Follows (dialogue : Dialogue) (keys : List String) : Prop :=
  match dialogue.failed? with
  | none => keys = dialogue.answers.map Prod.fst
  | some (key, _) => ∃ unasked, keys = dialogue.answers.map Prod.fst ++ key :: unasked

def reached (dialogue : Dialogue) (holes : List Hole) : List Hole :=
  holes.takeWhile fun hole => dialogue.failed?.map Prod.fst ≠ some hole.key

def value? (dialogue : Dialogue) (values : Fills) (holes : List Hole) (hole : Hole) :
    Option Value :=
  if hole ∈ dialogue.reached holes then values.get? hole.key else none

theorem follows_cons {dialogue : Dialogue} {keys : List String} (follows : dialogue.Follows keys)
    (key : String) (value : Value) :
    (Dialogue.mk ((key, value) :: dialogue.answers) dialogue.failed?).Follows (key :: keys) := by
  unfold Follows at follows ⊢
  cases failed : dialogue.failed? with
  | none => simpa [failed] using follows
  | some failure => simpa [failed] using follows

theorem mem_of_follows {dialogue : Dialogue} {keys : List String} (follows : dialogue.Follows keys)
    {key : String}
    (asked : key ∈ dialogue.answers.map Prod.fst ∨ dialogue.failed?.map Prod.fst = some key) :
    key ∈ keys := by
  unfold Follows at follows
  cases failed : dialogue.failed? with
  | none =>
    simp only [failed] at follows asked
    simpa [follows] using asked
  | some failure =>
    simp only [failed] at follows asked
    obtain ⟨unasked, rfl⟩ := follows
    rcases asked with answered | stopped
    · exact List.mem_append_left _ answered
    · simp_all

theorem reached_cons {dialogue : Dialogue} {hole : Hole}
    (unfailed : dialogue.failed?.map Prod.fst ≠ some hole.key) (rest : List Hole) :
    dialogue.reached (hole :: rest) = hole :: dialogue.reached rest := by
  simp [reached, unfailed]

end Dialogue

theorem answers_after_failure (ask : Asker σ) {inquiry : Inquiry σ}
    (failed : inquiry.failure?.isSome = true) (holes : List Hole) :
    Answers ask (fun _ => none) inquiry holes inquiry := by
  induction holes with
  | nil => rfl
  | cons hole rest ih => exact ⟨inquiry, by simp [answer, failed, Hole.argument], ih⟩

structure Held (ask : Asker σ) (known : List (String × Value)) (filled : Nat)
    (overheard : Overheard σ) (holes : List Hole) (dialogue : Dialogue) (later : σ) : Prop where
  follows : dialogue.Follows ((holes.map Hole.key).filter (· ∉ known.map Prod.fst)).eraseDups
  answered : ∀ hole ∈ dialogue.reached holes,
    ((Dict.ofList (known ++ dialogue.answers)).get? hole.key).isSome = true
  answers : Answers ask.overheard (dialogue.value? (.ofList (known ++ dialogue.answers)) holes)
    ⟨.ofList known, filled, none, overheard⟩ holes
    ⟨.ofList (known ++ dialogue.answers), filled + (dialogue.reached holes).length,
      dialogue.failed?.map Prod.snd, ⟨overheard.said ++ dialogue.said, later⟩⟩

theorem Held.fresh {ask : Asker σ} {known : List (String × Value)} {filled : Nat}
    {overheard : Overheard σ} {holes : List Hole} {dialogue : Dialogue} {later : σ}
    (held : Held ask known filled overheard holes dialogue later) {key : String}
    (old : key ∈ known.map Prod.fst) :
    key ∉ dialogue.answers.map Prod.fst ∧ dialogue.failed?.map Prod.fst ≠ some key := by
  have fresh : ∀ key ∈ ((holes.map Hole.key).filter (· ∉ known.map Prod.fst)).eraseDups,
      key ∉ known.map Prod.fst := by
    intro key member
    simpa using (List.mem_filter.mp (List.mem_eraseDups.mp member)).2
  exact ⟨fun answered => fresh key (Dialogue.mem_of_follows held.follows (.inl answered)) old,
    fun stopped => fresh key (Dialogue.mem_of_follows held.follows (.inr stopped)) old⟩

theorem Held.cons {ask : Asker σ} {known : List (String × Value)} {filled : Nat}
    {overheard : Overheard σ} {hole : Hole} {rest : List Hole} {dialogue : Dialogue} {later : σ}
    (held : Held ask known (filled + 1) overheard rest dialogue later) (apart : hole ∉ rest)
    {value : Value} (found : (Dict.ofList known).get? hole.key = some value)
    {first : Inquiry (Overheard σ)}
    (answered : answer ask.overheard first (.hole hole.key) =
      (.given value, ⟨.ofList known, filled + 1, none, overheard⟩)) :
    (∀ hole' ∈ dialogue.reached (hole :: rest),
      ((Dict.ofList (known ++ dialogue.answers)).get? hole'.key).isSome = true) ∧
    Answers ask.overheard (dialogue.value? (.ofList (known ++ dialogue.answers)) (hole :: rest))
      first (hole :: rest)
      ⟨.ofList (known ++ dialogue.answers), filled + (dialogue.reached (hole :: rest)).length,
        dialogue.failed?.map Prod.snd, ⟨overheard.said ++ dialogue.said, later⟩⟩ := by
  obtain ⟨absent, unfailed⟩ := held.fresh (Dict.mem_keys_of_get?_ofList found)
  have kept : (Dict.ofList (known ++ dialogue.answers)).get? hole.key = some value := by
    rw [Dict.get?_ofList_append absent, found]
  rw [Dialogue.reached_cons unfailed]
  constructor
  next => exact List.forall_mem_cons.mpr ⟨by simp [kept], held.answered⟩
  next =>
    have here : dialogue.value? (.ofList (known ++ dialogue.answers)) (hole :: rest) hole =
        some value := by
      simp [Dialogue.value?, Dialogue.reached_cons unfailed, kept]
    have others : ∀ other ∈ rest,
        dialogue.value? (.ofList (known ++ dialogue.answers)) rest other =
          dialogue.value? (.ofList (known ++ dialogue.answers)) (hole :: rest) other := by
      intro other member
      have distinct : other ≠ hole := fun same => apart (same ▸ member)
      simp [Dialogue.value?, Dialogue.reached_cons unfailed, distinct]
    have count : filled + (hole :: dialogue.reached rest).length =
        filled + 1 + (dialogue.reached rest).length := by
      rw [List.length_cons]
      omega
    rw [count]
    refine ⟨_, answered.trans ?_, answers_congr others held.answers⟩
    rw [here]
    rfl

theorem newKeys_cons {known : List (String × Value)} {key : String}
    (unknown : key ∉ known.map Prod.fst) (keys : List String) :
    ((key :: keys).filter (· ∉ known.map Prod.fst)).eraseDups =
      key :: (keys.filter (· ∉ known.map Prod.fst ++ [key])).eraseDups := by
  rw [List.filter_cons_of_pos (by simpa using unknown), List.eraseDups_cons, List.filter_filter]
  congr 2
  apply List.filter_congr
  intro other _
  rw [Bool.eq_iff_iff]
  simp [not_or, and_comm]

theorem exists_held (ask : Asker σ) {holes : List Hole} (distinct : holes.Nodup)
    (known : List (String × Value)) (filled : Nat) (overheard : Overheard σ) :
    ∃ dialogue later, Held ask known filled overheard holes dialogue later := by
  induction holes generalizing known filled overheard with
  | nil =>
    refine ⟨⟨[], none⟩, overheard.inner, rfl, by simp [Dialogue.reached], ?_⟩
    simp [Answers, Dialogue.reached, Dialogue.said]
  | cons hole rest ih =>
    obtain ⟨apart, distinct⟩ := List.nodup_cons.mp distinct
    cases found : (Dict.ofList known).get? hole.key with
    | some value =>
      have repeated : answer ask.overheard ⟨.ofList known, filled, none, overheard⟩
          (.hole hole.key) = (.given value, ⟨.ofList known, filled + 1, none, overheard⟩) := by
        simp [answer, found]
      obtain ⟨dialogue, later, held⟩ := ih distinct known (filled + 1) overheard
      obtain ⟨answered, answers⟩ := held.cons apart found repeated
      refine ⟨dialogue, later, ?_, answered, answers⟩
      have old := Dict.mem_keys_of_get?_ofList found
      rw [List.map_cons, List.filter_cons_of_neg (by simpa using old)]
      exact held.follows
    | none =>
      have keys := newKeys_cons (Dict.get?_ofList_eq_none_iff.mp found) (rest.map Hole.key)
      rcases reply : ask (question hole.key) overheard.inner with ⟨failure | value, later⟩
      next =>
        have refused : answer ask.overheard ⟨.ofList known, filled, none, overheard⟩
            (.hole hole.key) = (.hole hole.key, ⟨.ofList known, filled, some failure,
              ⟨overheard.said ++ [(question hole.key, .error failure)], later⟩⟩) := by
          simp [answer, found, Asker.overheard, reply]
        refine ⟨⟨[], some (hole.key, failure)⟩, later, ⟨_, keys⟩, by simp [Dialogue.reached], ?_⟩
        have unreached : Dialogue.reached ⟨[], some (hole.key, failure)⟩ (hole :: rest) = [] := by
          simp [Dialogue.reached]
        have unfilled : Dialogue.value? ⟨[], some (hole.key, failure)⟩ (.ofList (known ++ []))
            (hole :: rest) = fun _ => none := by
          funext other
          simp [Dialogue.value?, unreached]
        rw [unfilled, unreached, List.append_nil]
        exact ⟨_, refused, answers_after_failure ask.overheard rfl rest⟩
      next =>
        have asked : answer ask.overheard ⟨.ofList known, filled, none, overheard⟩
            (.hole hole.key) = (.given value,
              ⟨.ofList (known ++ [(hole.key, value)]), filled + 1, none,
                ⟨overheard.said ++ [(question hole.key, .ok value)], later⟩⟩) := by
          simp [answer, found, Asker.overheard, reply, Dict.ofList_concat]
        obtain ⟨dialogue, last, held⟩ := ih distinct (known ++ [(hole.key, value)]) (filled + 1)
          ⟨overheard.said ++ [(question hole.key, .ok value)], later⟩
        have now : (Dict.ofList (known ++ [(hole.key, value)])).get? hole.key = some value := by
          rw [Dict.ofList_concat, Dict.get?_insert_self]
        obtain ⟨answered, answers⟩ := held.cons apart now asked
        simp only [List.append_assoc, List.singleton_append] at answered answers
        refine ⟨⟨(hole.key, value) :: dialogue.answers, dialogue.failed?⟩, last, ?_, ?_, ?_⟩
        · have follows := held.follows
          rw [List.map_append] at follows
          exact keys ▸ Dialogue.follows_cons follows hole.key value
        · exact answered
        · exact answers

theorem Held.inquire {ask : Asker σ} {source later : σ} {script : Script} {dialogue : Dialogue}
    (held : Held ask [] 0 ⟨[], source⟩ script.holes dialogue later) {chosen : Hole → Option Value}
    (agree : ∀ hole ∈ script.holes,
      dialogue.value? (.ofList dialogue.answers) script.holes hole = chosen hole) :
    script.inquire ask.overheard ⟨[], source⟩ = (script.fillWith chosen,
      ⟨.ofList dialogue.answers, (dialogue.reached script.holes).length,
        dialogue.failed?.map Prod.snd, ⟨dialogue.said, later⟩⟩) ∧
    script.inquire ask source = (script.fillWith chosen,
      ⟨.ofList dialogue.answers, (dialogue.reached script.holes).length,
        dialogue.failed?.map Prod.snd, later⟩) := by
  have answers := held.answers
  simp only [List.nil_append, Nat.zero_add] at answers
  have answers := answers_congr agree answers
  exact ⟨inquire_of_answers answers, inquire_of_answers (answers_of_overheard answers)⟩

theorem Held.follows_keys {ask : Asker σ} {source later : σ} {script : Script}
    {dialogue : Dialogue} (held : Held ask [] 0 ⟨[], source⟩ script.holes dialogue later) :
    dialogue.Follows script.keys := by
  have follows := held.follows
  rwa [List.filter_eq_self.mpr (by simp)] at follows

structure Completes (script : Script) (answers : List (String × Value))
    (inquired : Script × Inquiry (Overheard σ)) : Prop where
  asked : script.keys = answers.map Prod.fst
  said : inquired.2.source.said = answers.map fun answer => (question answer.1, .ok answer.2)
  result : inquired.2.result = .ok (script.fillCount (.ofList answers))
  filled : inquired.1 = script.fill (.ofList answers)
  resolved : inquired.1.holes = []

structure Stops (script : Script) (answers : List (String × Value)) (key : String)
    (failure : InputError) (inquired : Script × Inquiry (Overheard σ)) : Prop where
  asked : ∃ unasked, script.keys = answers.map Prod.fst ++ key :: unasked
  said : inquired.2.source.said =
    answers.map (fun answer => (question answer.1, .ok answer.2)) ++
      [(question key, .error failure)]
  result : inquired.2.result = .error failure
  answered : ∀ hole ∈ script.holes.takeWhile (fun hole => hole.key ≠ key),
    ((Dict.ofList answers).get? hole.key).isSome = true
  filled : script.FilledBy
    (fun hole => if hole ∈ script.holes.takeWhile (fun hole => hole.key ≠ key)
      then (Dict.ofList answers).get? hole.key else none)
    inquired.1

section Outcome

variable {ask : Asker σ} {source later : σ} {script : Script} {answers : List (String × Value)}

theorem Held.completes
    (held : Held ask [] 0 ⟨[], source⟩ script.holes ⟨answers, none⟩ later) :
    Completes script answers (script.inquire ask.overheard ⟨[], source⟩) := by
  have reached : Dialogue.reached ⟨answers, none⟩ script.holes = script.holes :=
    List.takeWhile_eq_self_iff.mpr fun _ _ => rfl
  have agree : ∀ hole ∈ script.holes,
      Dialogue.value? ⟨answers, none⟩ (.ofList answers) script.holes hole =
        (Dict.ofList answers).get? hole.key := by
    intro hole member
    rw [Dialogue.value?, reached, if_pos member]
  have inquired := (held.inquire agree).1
  rw [← Script.fill_eq_fillWith, reached] at inquired
  have answered := held.answered
  rw [reached] at answered
  have resolved : (script.fill (.ofList answers)).holes = [] := by
    rw [Script.holes_fill, List.filter_eq_nil_iff]
    intro hole member
    simpa [Dict.contains, Option.isSome_iff_ne_none] using answered hole member
  have count := Script.fillCount_add_left (.ofList answers) script
  rw [resolved] at count
  rw [inquired]
  exact ⟨held.follows_keys, by simp [Dialogue.said], congrArg Except.ok count.symm, rfl, resolved⟩

theorem Held.stops {key : String} {failure : InputError}
    (held : Held ask [] 0 ⟨[], source⟩ script.holes ⟨answers, some (key, failure)⟩ later) :
    Stops script answers key failure (script.inquire ask.overheard ⟨[], source⟩) := by
  have reached : Dialogue.reached ⟨answers, some (key, failure)⟩ script.holes =
      script.holes.takeWhile fun hole => hole.key ≠ key := by
    simp [Dialogue.reached, ne_comm]
  have agree : ∀ hole ∈ script.holes,
      Dialogue.value? ⟨answers, some (key, failure)⟩ (.ofList answers) script.holes hole =
        if hole ∈ script.holes.takeWhile (fun hole => hole.key ≠ key)
        then (Dict.ofList answers).get? hole.key else none := by
    intro hole _
    rw [Dialogue.value?, reached]
  have answered := held.answered
  rw [reached] at answered
  rw [(held.inquire agree).1]
  exact ⟨held.follows_keys, rfl, rfl, answered, Script.filledBy_fillWith _ script⟩

end Outcome

/-- Each key of the script is asked for once, in the order of the first holes. When all of them have
answers the script is filled as from the dictionary of the answers; at the first failure the asking
ends, and the holes before the first one of that key are all that is filled. -/
theorem inquire_answers (ask : Asker σ) (source : σ) (script : Script) :
    let inquired := script.inquire ask.overheard ⟨[], source⟩
    script.inquire ask source = (inquired.1, inquired.2.mapSource Overheard.inner) ∧
    script.keys.Nodup ∧
    ∃ answers, Completes script answers inquired ∨
      ∃ key failure, Stops script answers key failure inquired := by
  obtain ⟨⟨answers, failed?⟩, later, held⟩ :=
    exists_held ask script.holes_nodup [] 0 ⟨[], source⟩
  have same := held.inquire fun _ _ => rfl
  refine ⟨?inner, eraseDups_nodup _, answers, ?outcome⟩
  case inner =>
    rw [same.1, same.2]
    rfl
  case outcome =>
    cases failed? with
    | none => exact .inl held.completes
    | some failed => exact .inr ⟨failed.1, failed.2, held.stops⟩

end Inquiry

end Runbook
