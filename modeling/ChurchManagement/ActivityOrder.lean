import Mathlib.Data.List.Pairwise
import ChurchManagement.Js.LocaleTime
import ChurchManagement.Attendance

namespace ChurchManagement

open Js Effect Express Sequelize

section Posts

/-- A request to record an activity of a user, made at a local time in a context that the layers in
front of the handler have left. -/
structure ActivityPost where
  req : Request
  activityType : String
  ctx : Ctx
  time : LocalTime

variable (p : Platform) (blank : Char) (userId : String)

/-- The request with the texts that the handler makes of the time. -/
def ActivityPost.request (post : ActivityPost) : Request :=
  { post.req with
    localeDate := post.time.toLocaleDateString
    localeTime := post.time.toLocaleTimeString blank }

def ActivityPost.params (post : ActivityPost) : List (String × String) :=
  [("userId", userId), ("activityType", post.activityType)]

/-- The server behind a post. -/
def afterPost (s : Server) (post : ActivityPost) : Server :=
  (exec (postCreateActivity p (post.request blank) (post.params userId))
    { post.ctx with server := s }).2.server

def afterPosts (s : Server) (posts : List ActivityPost) : Server :=
  posts.foldl (afterPost p blank userId) s

/-- The activities that the posts have added, in the order of their creation, each with the time it
was made at. -/
def postedActivities (s : Server) : List ActivityPost → List (Activity × LocalTime)
  | [] => []
  | post :: rest =>
    let s' := afterPost p blank userId s post
    (s'.activities.rows.drop s.activities.rows.length).map (·, post.time) ++ postedActivities s' rest

/-- What the columns of an activity store: dates in their ISO form, times and the identifier as
they are given. -/
structure StoresTexts (p : Platform) (blank : Char) (userId : String) : Prop where
  date : ∀ t : LocalTime, p.store .dateonly (.str t.toLocaleDateString) = some (.str t.isoDate)
  time : ∀ t : LocalTime, p.store .time (.str (t.toLocaleTimeString blank)) =
    some (.str (t.toLocaleTimeString blank))
  uuid : ∀ value, p.store .uuid (.str userId) = some value → value = .str userId

/-- The row of an activity that was made at the time. -/
structure MadeAt (row : Activity) (t : LocalTime) : Prop where
  USERID : row.get .USERID = .str userId
  DATE : row.get .DATE = .str t.isoDate
  TIME : row.get .TIME = .str (t.toLocaleTimeString blank)

variable {p}

/-- A post adds one row with the texts of its time, or none. -/
theorem afterPost_rows (texts : StoresTexts p blank userId) (s : Server) (post : ActivityPost) :
    ∃ rows : List Activity, (afterPost p blank userId s post).activities.rows =
        s.activities.rows ++ rows ∧ rows.length ≤ 1 ∧
      ∀ row ∈ rows, MadeAt blank userId row post.time := by
  rcases postCreateActivity_activities p (post.request blank) (post.params userId)
    { post.ctx with server := s } with ⟨activities, _, writes, _, isTable⟩ | ⟨_, same⟩
  · obtain ⟨_, user, response, row, _, _, made, inserted⟩ := writes.records
    have stores := create_stores p.toOrm made
    have userIdStored : row.Stores p.toOrm .USERID (.str userId) := stores .USERID
    have dateStored : row.Stores p.toOrm .DATE (.str post.time.toLocaleDateString) := stores .DATE
    have timeStored : row.Stores p.toOrm .TIME (.str (post.time.toLocaleTimeString blank)) :=
      stores .TIME
    rw [Row.Stores, if_neg (by simp)] at userIdStored dateStored timeStored
    refine ⟨[row], ?_, Nat.le_refl 1, fun other single => ?_⟩
    · rw [afterPost, isTable, Table.insert_rows inserted]
    · rw [List.mem_singleton.mp single]
      exact ⟨texts.uuid _ userIdStored,
        (Option.some.inj ((texts.date _).symm.trans dateStored)).symm,
        (Option.some.inj ((texts.time _).symm.trans timeStored)).symm⟩
  · refine ⟨[], ?_, Nat.zero_le 1, by simp⟩
    rw [afterPost, same, List.append_nil]

/-- The activities of all posts stand behind the earlier ones, in the order of the posts. -/
theorem afterPosts_rows (texts : StoresTexts p blank userId) (posts : List ActivityPost) (s : Server) :
    (afterPosts p blank userId s posts).activities.rows =
        s.activities.rows ++ (postedActivities p blank userId s posts).map Prod.fst ∧
      (∀ made ∈ postedActivities p blank userId s posts, MadeAt blank userId made.1 made.2) ∧
      ((postedActivities p blank userId s posts).map Prod.snd).Sublist
        (posts.map ActivityPost.time) := by
  induction posts generalizing s with
  | nil => exact ⟨by simp [afterPosts, postedActivities], by simp [postedActivities], .slnil⟩
  | cons post rest ih =>
    obtain ⟨rows, isRows, few, madeAt⟩ := afterPost_rows blank userId texts s post
    obtain ⟨behind, each, times⟩ := ih (afterPost p blank userId s post)
    have first : postedActivities p blank userId s (post :: rest) =
        rows.map (·, post.time) ++
          postedActivities p blank userId (afterPost p blank userId s post) rest := by
      rw [postedActivities, isRows, List.drop_left]
    rw [first]
    refine ⟨?_, fun made member => ?_, ?_⟩
    · rw [List.map_append, List.map_map, ← List.append_assoc]
      simpa [afterPosts, isRows, Function.comp_def] using behind
    · rcases List.mem_append.mp member with new | later
      · obtain ⟨row, inRows, rfl⟩ := List.mem_map.mp new
        exact madeAt row inRows
      · exact each made later
    · rw [List.map_append, List.map_map, List.map_cons]
      cases rows with
      | nil => exact times.cons _
      | cons row others =>
        have single : others = [] := List.length_eq_zero_iff.mp (by simpa using few)
        rw [single]
        exact times.cons_cons _

end Posts

section Order

variable {blank : Char} {userId : String} {a b : Activity} {s t : LocalTime}

theorem MadeAt.ordered (made : MadeAt blank userId a s) :
    Ordered [ActivityColumn.DATE, .TIME] a := by
  intro col listed
  simp only [List.mem_cons, List.not_mem_nil, or_false] at listed
  rcases listed with rfl | rfl
  · exact .inr ⟨_, made.DATE⟩
  · exact .inr ⟨_, made.TIME⟩

/-- Of two activities, the one comes first by its date, or by its time on the same date. -/
theorem MadeAt.descending_iff (madeA : MadeAt blank userId a s) (madeB : MadeAt blank userId b t) :
    descending [ActivityColumn.DATE, .TIME] b a = true ↔ s.dayNumber < t.dayNumber ∨
      s.dayNumber = t.dayNumber ∧ s.toLocaleTimeString blank ≤ t.toLocaleTimeString blank := by
  have days := LocalTime.isoDate_lt s t
  have days' := LocalTime.isoDate_lt t s
  simp only [descending, madeA.DATE, madeB.DATE, madeA.TIME, madeB.TIME, cellLE, Value.str.injEq]
  by_cases sameDate : t.isoDate = s.isoDate
  · have sameDay : s.dayNumber = t.dayNumber := by
      rw [sameDate] at days days'
      have notLess := days.not.mp (lt_irrefl _)
      have notMore := days'.not.mp (lt_irrefl _)
      omega
    rw [if_pos sameDate]
    by_cases sameTime : t.toLocaleTimeString blank = s.toLocaleTimeString blank
    · simp [sameTime, sameDay]
    · simp [sameTime, sameDay]
  · have otherDay : s.dayNumber ≠ t.dayNumber := by
      intro sameDay
      refine sameDate (le_antisymm ?_ ?_)
      · exact not_lt.mp (days.not.mpr (by omega))
      · exact not_lt.mp (days'.not.mpr (by omega))
    rw [if_neg sameDate, decide_eq_true_eq, ← not_lt, days']
    omega

/-- An activity and a later one are listed newest first exactly when the ranks of their times allow
it. -/
theorem MadeAt.newest_first_iff (madeA : MadeAt blank userId a s) (madeB : MadeAt blank userId b t)
    (before : s.Before t) : descending [ActivityColumn.DATE, .TIME] b a = true ↔
      (s.dayNumber = t.dayNumber → s.textRank ≤ t.textRank) := by
  rw [madeA.descending_iff madeB]
  by_cases sameDay : s.dayNumber = t.dayNumber
  · rw [LocalTime.toLocaleTimeString_le s t blank sameDay before]
    simp [sameDay]
  · have earlier : s.dayNumber < t.dayNumber := before.resolve_right fun same => sameDay same.1
    simp [sameDay, earlier]

/-- No two activities made at different times tie. -/
theorem MadeAt.not_both (madeA : MadeAt blank userId a s) (madeB : MadeAt blank userId b t)
    (before : s.Before t) (newer : descending [ActivityColumn.DATE, .TIME] b a = true) :
    ¬ descending [ActivityColumn.DATE, .TIME] a b = true := by
  rw [madeA.descending_iff madeB] at newer
  rw [madeB.descending_iff madeA]
  have hours := And.intro s.hour_lt t.hour_lt
  have minutes := And.intro s.minute_lt t.minute_lt
  have seconds := And.intro s.second_lt t.second_lt
  rcases newer with earlier | ⟨sameDay, le⟩
  · omega
  · rintro (later | ⟨_, ge⟩)
    · omega
    · have less := (LocalTime.toLocaleTimeString_lt s t blank).not.mp (not_lt.mpr ge)
      have more := (LocalTime.toLocaleTimeString_lt t s blank).not.mp (not_lt.mpr le)
      simp only [LocalTime.Before, LocalTime.textRank, LocalTime.daySecond] at before less more
      omega

end Order

section Listing

/-- The activities of a user as the pages list them. -/
def listed (userId : String) (activities : Table ActivityColumn) : List Activity :=
  orderDesc [ActivityColumn.DATE, .TIME]
    (activities.rows.filter fun row => decide (row.get .USERID = .str userId))

/-- The created activities are listed in the reverse order of their creation. -/
def ReverseListed (listing created : List Activity) : Prop :=
  (listing.filter fun row => decide (row.id ∈ created.map Row.id)) = created.reverse

/-- On every day the times of the activities go up in the order of their texts. -/
def RanksGoUp (posted : List (Activity × LocalTime)) : Prop :=
  posted.Pairwise fun x y => x.2.dayNumber = y.2.dayNumber → x.2.textRank ≤ y.2.textRank

/-- The days and the ranks of the times decide. -/
theorem ranksGoUp_iff {posted : List (Activity × LocalTime)} : RanksGoUp posted ↔
    (posted.map fun x => (x.2.dayNumber, x.2.textRank)).Pairwise fun x y => x.1 = y.1 → x.2 ≤ y.2 := by
  rw [List.pairwise_map]
  rfl

variable {blank : Char} {userId : String} {activities : Table ActivityColumn} {old : List Activity}
  {posted : List (Activity × LocalTime)}

/-- The created activities are listed each once. -/
theorem listed_perm (isRows : activities.rows = old ++ posted.map Prod.fst)
    (made : ∀ x ∈ posted, MadeAt blank userId x.1 x.2) :
    ((listed userId activities).filter fun row =>
      decide (row.id ∈ (posted.map Prod.fst).map Row.id)).Perm (posted.map Prod.fst) := by
  have distinct := activities.distinct
  rw [isRows, List.map_append, List.nodup_append] at distinct
  have selected : (posted.map Prod.fst).filter (fun row => decide (row.get .USERID = .str userId)) =
      posted.map Prod.fst := by
    rw [List.filter_eq_self]
    intro row member
    obtain ⟨x, inPosted, rfl⟩ := List.mem_map.mp member
    exact decide_eq_true (made x inPosted).USERID
  have others : (old.filter fun row => decide (row.get .USERID = .str userId)).filter
      (fun row => decide (row.id ∈ (posted.map Prod.fst).map Row.id)) = [] := by
    rw [List.filter_eq_nil_iff]
    intro row member inside
    have inOld := List.mem_map_of_mem (f := Row.id) (List.mem_filter.mp member).1
    exact distinct.2.2 _ inOld _ (of_decide_eq_true inside) rfl
  have own : (posted.map Prod.fst).filter
      (fun row => decide (row.id ∈ (posted.map Prod.fst).map Row.id)) = posted.map Prod.fst := by
    rw [List.filter_eq_self]
    intro row member
    exact decide_eq_true (List.mem_map_of_mem member)
  have perm := (List.perm_insertionSort (fun a b => descending [ActivityColumn.DATE, .TIME] a b = true)
    (activities.rows.filter fun row => decide (row.get .USERID = .str userId))).filter
      fun row => decide (row.id ∈ (posted.map Prod.fst).map Row.id)
  rwa [isRows, List.filter_append, selected, List.filter_append, others, own, List.nil_append,
    ← selected, ← List.filter_append, ← isRows, selected] at perm

theorem reverse_descending_iff (made : ∀ x ∈ posted, MadeAt blank userId x.1 x.2)
    (times : posted.Pairwise fun x y => x.2.Before y.2) :
    ((posted.map Prod.fst).reverse.Pairwise fun a b =>
      descending [ActivityColumn.DATE, .TIME] a b = true) ↔ RanksGoUp posted := by
  rw [List.pairwise_reverse, List.pairwise_map]
  constructor
  · intro sorted
    refine (sorted.and times).imp_of_mem fun {x y} inX inY both => ?_
    exact ((made x inX).newest_first_iff (made y inY) both.2).mp both.1
  · intro ranks
    refine (ranks.and times).imp_of_mem fun {x y} inX inY both => ?_
    exact ((made x inX).newest_first_iff (made y inY) both.2).mpr both.1

/-- None of the created activities tie. -/
theorem eq_of_descending (made : ∀ x ∈ posted, MadeAt blank userId x.1 x.2)
    (times : posted.Pairwise fun x y => x.2.Before y.2) :
    ∀ a ∈ posted.map Prod.fst, ∀ b ∈ posted.map Prod.fst,
      descending [ActivityColumn.DATE, .TIME] a b = true →
      descending [ActivityColumn.DATE, .TIME] b a = true → a = b := by
  have apart : (posted.map Prod.fst).Pairwise fun a b =>
      descending [ActivityColumn.DATE, .TIME] a b = true →
      descending [ActivityColumn.DATE, .TIME] b a = true → a = b := by
    rw [List.pairwise_map]
    refine times.imp_of_mem fun {x y} inX inY before older newer => ?_
    exact absurd older ((made x inX).not_both (made y inY) before newer)
  intro a inA b inB
  exact apart.forall_of_forall_of_flip (fun _ _ _ _ => rfl)
    (apart.imp fun known older newer => (known newer older).symm) inA inB

/-- A sorted list is determined by its elements where none of them tie. -/
theorem reverseListed_iff (isRows : activities.rows = old ++ posted.map Prod.fst)
    (ordered : ∀ row ∈ old, Ordered [ActivityColumn.DATE, .TIME] row)
    (made : ∀ x ∈ posted, MadeAt blank userId x.1 x.2)
    (times : posted.Pairwise fun x y => x.2.Before y.2) :
    ReverseListed (listed userId activities) (posted.map Prod.fst) ↔ RanksGoUp posted := by
  have sorted : (listed userId activities).Pairwise fun a b =>
      descending [ActivityColumn.DATE, .TIME] a b = true := by
    refine orderDesc_pairwise fun row member => ?_
    have inRows := (List.mem_filter.mp member).1
    rw [isRows] at inRows
    rcases List.mem_append.mp inRows with inOld | new
    · exact ordered row inOld
    · obtain ⟨x, inPosted, rfl⟩ := List.mem_map.mp new
      exact (made x inPosted).ordered
  rw [← reverse_descending_iff made times]
  constructor
  · intro same
    rw [← same]
    exact sorted.filter _
  · intro descends
    have perm := listed_perm isRows made
    refine List.Perm.eq_of_pairwise ?_ (sorted.filter _) descends
      (perm.trans (List.reverse_perm _).symm)
    intro a b inA inB
    exact eq_of_descending made times a (perm.mem_iff.mp inA) b (List.mem_reverse.mp inB)

end Listing

section Pages

variable (p : Platform) {req : Request} {c : Ctx} {userId : String}

theorem getUserActivities_lists (works : ∀ table op, req.fault table op = none) :
    (exec (getUserActivities p req userId) c).2.responses.getLast? =
      some (.send 200 (.obj
        [("activities", .arr ((listed userId c.server.activities).map Row.toJSON))])) := by
  refine Ensures.final (P := fun t : Ctx => t.responses.getLast? = _) ?_
  unfold getUserActivities
  simp only [ensures_attempt, ensures_bind, ensures_whereColumn, ensures_db, ensures_get,
    p.whereEq_text, Option.some.injEq, forall_eq']
  refine ⟨⟨fun _ fault => ?_, fun _ => List.getLast?_concat⟩, fun never => by cases never⟩
  cases (works _ _).symm.trans fault

/-- The identifier that a page is for is found where there is one. -/
theorem memberId_current {id : Value} (current : currentId p req c.session = some id) :
    Ensures (memberId p req) c (fun found t => found = id ∧ t.core = c.core) (fun _ _ => False) := by
  unfold memberId
  unfold currentId at current
  simp only [ensures_bind, ensures_get, ensures_ite, ensures_pure]
  refine ⟨fun truthy => ?_, fun falsy => ?_⟩
  · rw [if_pos truthy] at current
    exact ⟨Option.some.inj current, trivial⟩
  · rw [if_neg falsy] at current
    refine (getAgent_spec p req c).mono ?_ (fun _ _ impossible => impossible)
    rintro agent t ⟨rfl, same⟩
    simp only [ensures_orThrow, ensures_prop]
    refine ⟨fun agent found => ?_, fun missing => ?_⟩
    · rw [found, Option.bind_some] at current
      refine ⟨fun userId read => ?_, fun _ threw => ?_⟩
      · rw [read] at current
        exact ⟨Option.some.inj current, same⟩
      · rw [threw] at current
        cases current
    · rw [missing] at current
      cases current

theorem getMemberIndex_lists (works : ∀ table op, req.fault table op = none)
    (current : currentId p req c.session = some (.str userId)) (filled : userId ≠ "")
    (known : ∃ user ∈ c.server.users.rows, user.id = userId) :
    ∃ user agent, (exec (getMemberIndex p req) c).2.responses.getLast? =
      some (.render 200 "memberIndex" [("user", user),
        ("activities", .arr ((listed userId c.server.activities).map Row.toJSON)),
        ("agent", agent)]) := by
  refine Ensures.final (P := fun t : Ctx => ∃ user agent, t.responses.getLast? = some (.render 200
    "memberIndex" [("user", user), ("activities", _), ("agent", agent)])) ?_
  unfold getMemberIndex
  rw [ensures_attempt, ensures_bind]
  refine (memberId_current p current).mono ?_ (fun _ _ impossible => impossible.elim)
  rintro _ t ⟨rfl, same⟩
  have server := Ctx.server_of_core same
  rw [ensures_ite]
  refine ⟨fun falsy => by simp [Value.truthy, filled] at falsy, fun _ => ?_⟩
  unfold showMember
  rw [ensures_bind]
  obtain ⟨found, looked, missing⟩ := findByPk_str p.toOrm userId t.server.users.rows
  refine (findUser_spec p req (.str userId) t).mono ?_ ?_
  · rintro found' t' ⟨rfl, _, looked'⟩
    cases Option.some.inj (looked.symm.trans looked')
    split
    · obtain ⟨user, member, isUser⟩ := known
      rw [server] at missing
      exact absurd isUser (missing rfl user member)
    · rename_i user
      simp only [ensures_bind, ensures_setSession, ensures_whereColumn, ensures_db, ensures_get,
        ensures_render, p.whereEq_text, Option.some.injEq, forall_eq']
      refine ⟨⟨fun _ fault => ?_, fun _ => ⟨user.toJSON, p.query req.url "agent", ?_⟩⟩,
        fun never => by cases never⟩
      · cases (works _ _).symm.trans fault
      · rw [← server]
        exact List.getLast?_concat
  · rintro _ t' ⟨rfl, failed⟩
    cases looked.symm.trans (failed (works _ _))

/-- The pages list the created activities of the user newest first. -/
structure NewestFirst (userId : String) (s : Server) (created : List Activity) : Prop where
  memberIndex : ∀ req c, c.server = s → (∀ table op, req.fault table op = none) →
    currentId p req c.session = some (.str userId) → userId ≠ "" →
    (∃ user ∈ s.users.rows, user.id = userId) →
    ∃ user agent listing, (exec (getMemberIndex p req) c).2.responses.getLast? =
      some (.render 200 "memberIndex" [("user", user),
        ("activities", .arr (listing.map Row.toJSON)), ("agent", agent)]) ∧
      ReverseListed listing created
  activities : ∀ req c, c.server = s → (∀ table op, req.fault table op = none) →
    ∃ listing, (exec (getUserActivities p req userId) c).2.responses.getLast? =
      some (.send 200 (.obj [("activities", .arr (listing.map Row.toJSON))])) ∧
      ReverseListed listing created

theorem newestFirst_iff (s : Server) (created : List Activity) :
    NewestFirst p userId s created ↔ ReverseListed (listed userId s.activities) created := by
  constructor
  · intro newest
    let req : Request := { method := "GET", url := "/", sid := "", v4 := "", rowId := fun _ => "" }
    let c : Ctx := { server := s, session := {} }
    obtain ⟨listing, shown, reversed⟩ := newest.activities req c rfl fun _ _ => rfl
    have isListed : (exec (getUserActivities p req userId) c).2.responses.getLast? = _ :=
      getUserActivities_lists p fun _ _ => rfl
    rw [isListed] at shown
    have same : listed userId s.activities = listing := by
      simpa [List.map_inj_right Row.toJSON_injective] using shown
    exact same ▸ reversed
  · intro reversed
    refine ⟨fun req c isServer works current filled known => ?_, fun req c isServer works => ?_⟩
    · subst isServer
      obtain ⟨user, agent, shown⟩ := getMemberIndex_lists p works current filled known
      exact ⟨user, agent, _, shown, reversed⟩
    · subst isServer
      exact ⟨_, getUserActivities_lists p works, reversed⟩

/-- The activities of posts at increasing times are listed in reverse exactly when their ranks go
up. -/
theorem afterPosts_reverseListed_iff {p : Platform} {blank : Char}
    (texts : StoresTexts p blank userId) (s : Server)
    (ordered : ∀ row ∈ s.activities.rows, Ordered [ActivityColumn.DATE, .TIME] row)
    (posts : List ActivityPost) (increasing : posts.Pairwise fun x y => x.time.Before y.time) :
    ReverseListed (listed userId (afterPosts p blank userId s posts).activities)
        ((postedActivities p blank userId s posts).map Prod.fst) ↔
      RanksGoUp (postedActivities p blank userId s posts) := by
  obtain ⟨isRows, made, times⟩ := afterPosts_rows blank userId texts posts s
  refine reverseListed_iff isRows ordered made ?_
  rw [← List.pairwise_map (f := Prod.snd)]
  exact (List.pairwise_map.mpr increasing).sublist times

/-- Activities that are recorded at increasing times are listed newest first exactly when on every
day the texts of their times go up as well: the hours 10, 11 and 12 come before the hours 1 to 9,
and the half of the day counts last. -/
theorem activities_newest_first_iff (blank : Char) (texts : StoresTexts p blank userId) (s : Server)
    (ordered : ∀ row ∈ s.activities.rows, Ordered [ActivityColumn.DATE, .TIME] row)
    (posts : List ActivityPost) (increasing : posts.Pairwise fun x y => x.time.Before y.time) :
    NewestFirst p userId (afterPosts p blank userId s posts)
        ((postedActivities p blank userId s posts).map Prod.fst) ↔
      RanksGoUp (postedActivities p blank userId s posts) :=
  (newestFirst_iff p _ _).trans (afterPosts_reverseListed_iff texts s ordered posts increasing)

end Pages

namespace Reference

/-- What the column makes of a date of the form `M/D/YYYY`. -/
def isoOf (text : String) : String :=
  match (splitChar '/' text.toList).map fun part => Nat.ofDigitChars 10 part 0 with
  | [month, day, year] => isoText year month day
  | _ => text

/-- The packages over a database that keeps dates in their ISO form. -/
def datedPlatform : Platform :=
  { platform with
    store := fun type value => match type, value with
      | .dateonly, .str s => some (.str (isoOf s))
      | _, _ => store type value
    store_null := fun type => by cases type <;> rfl
    store_string := fun _ => rfl
    store_text := fun _ => rfl }

theorem isoOf_toLocaleDateString (t : LocalTime) : isoOf t.toLocaleDateString = t.isoDate := by
  have plain (n : Nat) : '/' ∉ Nat.toDigits 10 n := by
    intro member
    have digit := Nat.isDigit_of_mem_toDigits (by decide) (by decide) member
    revert digit
    decide
  have parts : splitChar '/' t.toLocaleDateString.toList =
      [Nat.toDigits 10 t.month, Nat.toDigits 10 t.day, Nat.toDigits 10 t.year] := by
    have isText : t.toLocaleDateString.toList = Nat.toDigits 10 t.month ++
        '/' :: (Nat.toDigits 10 t.day ++ '/' :: Nat.toDigits 10 t.year) := by
      simp [LocalTime.toLocaleDateString, String.toList_append]
    rw [isText, splitChar_append (plain _), splitChar_append (plain _), splitChar_plain (plain _)]
  rw [isoOf, parts]
  simp only [List.map_cons, List.map_nil, Nat.ofDigitChars_ten_toDigits]
  rfl

theorem datedPlatform_storesTexts : StoresTexts datedPlatform ' ' adaId where
  date t := by
    change some (Value.str (isoOf t.toLocaleDateString)) = _
    rw [isoOf_toLocaleDateString]
  time _ := rfl
  uuid _ stored := (Option.some.inj stored).symm

/-- A time on a Sunday. -/
def sunday (hour minute : Nat) (hours : hour < 24) (minutes : minute < 60) : LocalTime where
  year := 2024
  month := 5
  day := 19
  hour := hour
  minute := minute
  second := 0
  year_lt := by decide
  month_le := by decide
  day_le := by decide
  hour_lt := hours
  minute_lt := minutes
  second_lt := by decide

/-- The member records a prayer. -/
def praying (row : String) (time : LocalTime) : ActivityPost where
  req := { request "s1" "POST" ("/create-activity/" ++ adaId ++ "/Prayer?location=church") with
    body := .obj [("response", .str "done")]
    rowId := fun _ => row }
  activityType := "Prayer"
  ctx := context adaId
  time := time

/-- Two prayers on one morning. -/
def morning : List ActivityPost :=
  [praying "row-1" (sunday 9 5 (by decide) (by decide)),
    praying "row-2" (sunday 10 0 (by decide) (by decide))]

/-- Two prayers around noon. -/
def noon : List ActivityPost :=
  [praying "row-1" (sunday 10 0 (by decide) (by decide)),
    praying "row-2" (sunday 13 0 (by decide) (by decide))]

theorem start_ordered :
    ∀ row ∈ start.activities.rows, Ordered [ActivityColumn.DATE, .TIME] row := by simp [start]

/-- The prayer of ten is listed below the one of five past nine. -/
theorem tenth_hour_listed_last : morning.Pairwise (fun x y => x.time.Before y.time) ∧
    (postedActivities datedPlatform ' ' adaId start morning).length = 2 ∧
    ¬ NewestFirst datedPlatform adaId (afterPosts datedPlatform ' ' adaId start morning)
      ((postedActivities datedPlatform ' ' adaId start morning).map Prod.fst) := by
  have increasing : morning.Pairwise fun x y => x.time.Before y.time := by decide
  have ranks : (postedActivities datedPlatform ' ' adaId start morning).map
      (fun x => (x.2.dayNumber, x.2.textRank)) = [(20240519, 39900), (20240519, 0)] := by
    decide +kernel
  refine ⟨increasing, by simpa using congrArg List.length ranks, fun newest => ?_⟩
  have goUp := (afterPosts_reverseListed_iff datedPlatform_storesTexts start start_ordered morning
    increasing).mp ((newestFirst_iff datedPlatform _ _).mp newest)
  rw [ranksGoUp_iff, ranks] at goUp
  revert goUp
  decide

/-- The prayer of one in the afternoon is listed above the one of ten. -/
theorem afternoon_listed_first :
    NewestFirst datedPlatform adaId (afterPosts datedPlatform ' ' adaId start noon)
      ((postedActivities datedPlatform ' ' adaId start noon).map Prod.fst) := by
  have increasing : noon.Pairwise fun x y => x.time.Before y.time := by decide
  have ranks : (postedActivities datedPlatform ' ' adaId start noon).map
      (fun x => (x.2.dayNumber, x.2.textRank)) = [(20240519, 0), (20240519, 10800)] := by
    decide +kernel
  refine (activities_newest_first_iff datedPlatform ' ' datedPlatform_storesTexts start start_ordered
    noon increasing).mpr ?_
  rw [ranksGoUp_iff, ranks]
  decide

end Reference

end ChurchManagement
