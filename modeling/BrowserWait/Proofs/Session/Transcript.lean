import BrowserWait.Session.Http
import Mathlib.Data.List.Basic
import Mathlib.Data.List.Induction
import Mathlib.Tactic.Common

/-!
# Transcripts

What the exchanges with a server tell of its session, read off the exchanges alone: which session is current, which
timeout is in force in it, and whether each request went to the session that was current when it was sent. `Current`
and `InForce` say it of the exchanges behind the last one that began a session; `standing` computes the same exchange by
exchange, and `standing_session_iff` and `standing_timeout_iff` join the two.
-/

namespace BrowserWait

/-- How the exchanges of a protocol speak of sessions. -/
structure Dialect where
  /-- Whether a request asks for a new session. -/
  asks : Request → Bool
  /-- The id of the session that an exchange begins. -/
  begins? : Exchange → Option String
  /-- Whether an exchange ends the session with an id. -/
  ends : (session : String) → Exchange → Bool
  /-- The timeout that an exchange puts in force in the session with an id. -/
  timeout? : (session : String) → Exchange → Option Nat
  /-- A request is addressed to the session with an id. -/
  Addresses : (session : String) → Request → Prop

namespace Dialect

variable (dialect : Dialect)

/-- The current session of a log, with the exchanges since it began. -/
structure Current (log : List Exchange) (session : String) (since : List Exchange) : Prop where
  begun : ∃ earlier beginning, log = earlier ++ beginning :: since ∧ dialect.begins? beginning = some session
  latest : ∀ exchange ∈ since, dialect.begins? exchange = none
  lasting : ∀ exchange ∈ since, dialect.ends session exchange = false

/-- Since the current session began some request put a timeout in force, and the last one that did carried `ms`. -/
def InForce (log : List Exchange) (ms : Nat) : Prop :=
  ∃ session since, dialect.Current log session since ∧ (since.filterMap (dialect.timeout? session)).getLast? = some ms

/-- Each request asks for a new session, or is addressed to the session that was current when it was sent. -/
def Addressed (log : List Exchange) : Prop :=
  ∀ earlier exchange later, log = earlier ++ exchange :: later → dialect.asks exchange.request = true ∨
    ∃ session since, dialect.Current earlier session since ∧ dialect.Addresses session exchange.request

/-! ## Exchange by exchange -/

/-- The session at hand and the timeout in force in it. -/
structure Standing where
  session : Option String := none
  timeout : Option Nat := none

/-- What an exchange makes of a standing. -/
def after (standing : Standing) (exchange : Exchange) : Standing :=
  match dialect.begins? exchange with
  | some session => ⟨some session, none⟩
  | none =>
    match standing.session with
    | none => standing
    | some session =>
      if dialect.ends session exchange then {}
      else { standing with timeout := (dialect.timeout? session exchange).or standing.timeout }

/-- What a log leaves. -/
def standing (log : List Exchange) : Standing := log.foldl dialect.after {}

variable {dialect : Dialect} {log : List Exchange} {exchange : Exchange} {session : String} {since : List Exchange}

@[simp] theorem standing_nil : dialect.standing [] = {} := rfl

@[simp] theorem standing_concat (log : List Exchange) (exchange : Exchange) :
    dialect.standing (log ++ [exchange]) = dialect.after (dialect.standing log) exchange := by
  simp [standing]

theorem after_of_begins (standing : Standing) (begins : dialect.begins? exchange = some session) :
    dialect.after standing exchange = ⟨some session, none⟩ := by
  simp only [after, begins]

theorem after_sessionless {standing : Standing} (begins : dialect.begins? exchange = none)
    (sessionless : standing.session = none) : dialect.after standing exchange = standing := by
  simp only [after, begins, sessionless]

theorem after_of_ends (timeout : Option Nat) (begins : dialect.begins? exchange = none)
    (ends : dialect.ends session exchange = true) : dialect.after ⟨some session, timeout⟩ exchange = {} := by
  simp only [after, begins, ends, if_true]

theorem after_of_lasts (timeout : Option Nat) (begins : dialect.begins? exchange = none)
    (lasts : dialect.ends session exchange = false) :
    dialect.after ⟨some session, timeout⟩ exchange =
      ⟨some session, (dialect.timeout? session exchange).or timeout⟩ := by
  simp [after, begins, lasts]

/-- An exchange that says nothing of sessions changes nothing. -/
theorem after_of_silent (begins : dialect.begins? exchange = none)
    (lasts : ∀ session, dialect.ends session exchange = false)
    (sets : ∀ session, dialect.timeout? session exchange = none) (standing : Standing) :
    dialect.after standing exchange = standing := by
  obtain ⟨atHand, timeout⟩ := standing
  cases atHand with
  | none => exact after_sessionless begins rfl
  | some session => rw [after_of_lasts _ begins (lasts session), sets session, Option.none_or]

/-- What a request in the session makes of it, when its answer decides whether the session ends or gets a timeout. -/
theorem after_of_reply (timeout : Option Nat) {acknowledged quits : Bool} {ms? : Option Nat}
    (begins : dialect.begins? exchange = none) (ends : dialect.ends session exchange = (quits && acknowledged))
    (sets : dialect.timeout? session exchange = if acknowledged then ms? else none) :
    dialect.after ⟨some session, timeout⟩ exchange =
      if acknowledged then if quits then {} else ⟨some session, ms?.or timeout⟩ else ⟨some session, timeout⟩ := by
  cases acknowledged with
  | false =>
    rw [Bool.and_false] at ends
    rw [after_of_lasts timeout begins ends, sets]
    rfl
  | true =>
    rw [Bool.and_true] at ends
    cases quits with
    | true => exact after_of_ends timeout begins ends
    | false =>
      rw [after_of_lasts timeout begins ends, sets]
      rfl

/-- An exchange of a log with one more is the last one, or one of the log before. -/
theorem split_concat {earlier later : List Exchange} {other : Exchange}
    (split : log ++ [exchange] = earlier ++ other :: later) :
    log = earlier ∧ exchange = other ∧ later = [] ∨
      ∃ front, later = front ++ [exchange] ∧ log = earlier ++ other :: front := by
  rcases List.eq_nil_or_concat' later with rfl | ⟨front, last, rfl⟩
  · obtain ⟨same, one⟩ := List.append_inj' split rfl
    cases one
    exact .inl ⟨same, rfl, rfl⟩
  · rw [← List.cons_append, ← List.append_assoc] at split
    obtain ⟨same, one⟩ := List.append_inj' split rfl
    cases one
    exact .inr ⟨front, rfl, same⟩

/-- With an exchange more, either it begins the current session, or that of the log before goes on. -/
theorem current_concat :
    dialect.Current (log ++ [exchange]) session since ↔
      dialect.begins? exchange = some session ∧ since = [] ∨
        dialect.begins? exchange = none ∧ dialect.ends session exchange = false ∧
          ∃ before, since = before ++ [exchange] ∧ dialect.Current log session before := by
  constructor
  · rintro ⟨⟨earlier, beginning, split, begins⟩, latest, lasting⟩
    rcases split_concat split with ⟨_, rfl, rfl⟩ | ⟨before, rfl, front⟩
    · exact .inl ⟨begins, rfl⟩
    · obtain ⟨latest, silent⟩ := List.forall_mem_append.mp latest
      obtain ⟨lasting, lasts⟩ := List.forall_mem_append.mp lasting
      rw [List.forall_mem_singleton] at silent lasts
      exact .inr ⟨silent, lasts, before, rfl, ⟨earlier, beginning, front, begins⟩, latest, lasting⟩
  · rintro (⟨begins, rfl⟩ | ⟨silent, lasts, before, rfl, ⟨earlier, beginning, rfl, begins⟩, latest, lasting⟩)
    · exact ⟨⟨log, exchange, rfl, begins⟩, List.forall_mem_nil _, List.forall_mem_nil _⟩
    · refine ⟨⟨earlier, beginning, by simp, begins⟩, ?_, ?_⟩
      · exact List.forall_mem_append.mpr ⟨latest, List.forall_mem_singleton.mpr silent⟩
      · exact List.forall_mem_append.mpr ⟨lasting, List.forall_mem_singleton.mpr lasts⟩

/-- Behind the beginning of the current session there is no other beginning. -/
theorem Current.length_le (current : dialect.Current log session since) {earlier later : List Exchange}
    {beginning : Exchange} {other : String} (split : log = earlier ++ beginning :: later)
    (begins : dialect.begins? beginning = some other) : since.length ≤ later.length := by
  obtain ⟨⟨front, first, whole, _⟩, latest, _⟩ := current
  by_contra longer
  have behind : since <:+ log := ⟨front ++ [first], by rw [whole, List.append_assoc, List.singleton_append]⟩
  have within : beginning :: later <:+ since :=
    List.suffix_of_suffix_length_le ⟨earlier, split.symm⟩ behind (Nat.lt_of_not_le longer)
  cases (latest beginning (within.subset List.mem_cons_self)).symm.trans begins

/-- A log has one current session at most. -/
theorem Current.unique {other : String} {further : List Exchange} (current : dialect.Current log session since)
    (also : dialect.Current log other further) : session = other ∧ since = further := by
  obtain ⟨earlier, beginning, split, begins⟩ := current.begun
  obtain ⟨front, first, whole, starts⟩ := also.begun
  have length : since.length = further.length :=
    Nat.le_antisymm (current.length_le whole starts) (also.length_le split begins)
  obtain ⟨_, same⟩ := List.append_inj' (split.symm.trans whole) (congrArg (· + 1) length)
  obtain ⟨rfl, rfl⟩ := List.cons.inj same
  exact ⟨Option.some.inj (begins.symm.trans starts), rfl⟩

/-- A session stays current behind exchanges that neither begin another one nor end it. -/
theorem Current.append {more : List Exchange} (current : dialect.Current log session since)
    (goesOn : ∀ exchange ∈ more, dialect.begins? exchange = none ∧ dialect.ends session exchange = false) :
    dialect.Current (log ++ more) session (since ++ more) := by
  obtain ⟨⟨earlier, beginning, rfl, begins⟩, latest, lasting⟩ := current
  refine ⟨⟨earlier, beginning, by simp, begins⟩, ?_, ?_⟩
  · exact List.forall_mem_append.mpr ⟨latest, fun exchange member => (goesOn exchange member).1⟩
  · exact List.forall_mem_append.mpr ⟨lasting, fun exchange member => (goesOn exchange member).2⟩

theorem getLast?_filterMap_concat (timeout? : Exchange → Option Nat) (since : List Exchange) (exchange : Exchange) :
    ((since ++ [exchange]).filterMap timeout?).getLast? =
      (timeout? exchange).or (since.filterMap timeout?).getLast? := by
  rw [List.filterMap_append, List.getLast?_append]
  congr 1
  cases carried : timeout? exchange with
  | none => simp [carried]
  | some ms => simp [carried]

/-- A log with a current session leaves that session, with the last timeout put in force in it. -/
theorem standing_of_current (current : dialect.Current log session since) :
    dialect.standing log = ⟨some session, (since.filterMap (dialect.timeout? session)).getLast?⟩ := by
  -- from the end of the log, where the exchanges since the session began are
  induction log using List.reverseRecOn generalizing since with
  | nil =>
    obtain ⟨⟨earlier, beginning, split, _⟩, _, _⟩ := current
    simp at split
  | append_singleton log exchange ih =>
    rw [standing_concat]
    rcases current_concat.mp current with ⟨begins, rfl⟩ | ⟨begins, lasts, before, rfl, goesOn⟩
    · rw [after_of_begins _ begins]
      rfl
    · rw [ih goesOn, after_of_lasts _ begins lasts, getLast?_filterMap_concat]

/-- A log leaves the current session, or nothing. -/
theorem standing_cases (dialect : Dialect) (log : List Exchange) :
    dialect.standing log = {} ∨
      ∃ session since, dialect.Current log session since ∧ (dialect.standing log).session = some session := by
  induction log using List.reverseRecOn with
  | nil => exact .inl rfl
  | append_singleton log exchange ih =>
    rw [standing_concat]
    cases begins : dialect.begins? exchange with
    | some session =>
      refine .inr ⟨session, [], current_concat.mpr (.inl ⟨begins, rfl⟩), ?_⟩
      rw [after_of_begins _ begins]
    | none =>
      rcases ih with none | ⟨session, since, current, _⟩
      · rw [none]
        exact .inl (after_sessionless begins rfl)
      · rw [standing_of_current current]
        cases ends : dialect.ends session exchange with
        | true => exact .inl (after_of_ends _ begins ends)
        | false =>
          refine .inr ⟨session, since ++ [exchange], ?_, ?_⟩
          · exact current_concat.mpr (.inr ⟨begins, ends, since, rfl, current⟩)
          · rw [after_of_lasts _ begins ends]

theorem standing_session_iff :
    (dialect.standing log).session = some session ↔ ∃ since, dialect.Current log session since := by
  constructor
  · intro holds
    rcases standing_cases dialect log with none | ⟨other, since, current, left⟩
    · rw [none] at holds
      cases holds
    · cases left.symm.trans holds
      exact ⟨since, current⟩
  · rintro ⟨since, current⟩
    rw [standing_of_current current]

theorem standing_timeout_iff {ms : Nat} : (dialect.standing log).timeout = some ms ↔ dialect.InForce log ms := by
  constructor
  · intro holds
    rcases standing_cases dialect log with none | ⟨session, since, current, _⟩
    · rw [none] at holds
      cases holds
    · rw [standing_of_current current] at holds
      exact ⟨session, since, current, holds⟩
  · rintro ⟨session, since, current, last⟩
    rw [standing_of_current current, last]

theorem standing_sessionless (sessionless : (dialect.standing log).session = none) : dialect.standing log = {} := by
  rcases standing_cases dialect log with none | ⟨session, _, _, left⟩
  · exact none
  · cases left.symm.trans sessionless

/-! ## Keeping track -/

/-- A standing is the one that a log leaves, and all requests of the log went where they belong. -/
structure Tracks (dialect : Dialect) (log : List Exchange) (standing : Standing) : Prop where
  standing_eq : dialect.standing log = standing
  addressed : dialect.Addressed log

theorem tracks_nil : dialect.Tracks [] {} := by
  refine ⟨rfl, ?_⟩
  intro earlier exchange later split
  simp at split

variable {standing : Standing}

/-- One exchange more, with a request that asks for a session or goes to the one at hand. -/
theorem Tracks.concat (tracks : dialect.Tracks log standing) (belongs : dialect.asks exchange.request = true ∨
      ∃ session, standing.session = some session ∧ dialect.Addresses session exchange.request) :
    dialect.Tracks (log ++ [exchange]) (dialect.after standing exchange) := by
  refine ⟨by rw [standing_concat, tracks.standing_eq], ?_⟩
  intro earlier other later split
  rcases split_concat split with ⟨rfl, rfl, _⟩ | ⟨front, _, same⟩
  · refine belongs.imp_right ?_
    rintro ⟨session, atHand, addresses⟩
    obtain ⟨since, current⟩ := standing_session_iff.mp ((congrArg Standing.session tracks.standing_eq).trans atHand)
    exact ⟨session, since, current, addresses⟩
  · exact tracks.addressed earlier other front same

theorem Tracks.session_iff (tracks : dialect.Tracks log standing) {session : String} :
    standing.session = some session ↔ ∃ since, dialect.Current log session since := by
  rw [← standing_session_iff, tracks.standing_eq]

theorem Tracks.timeout_iff (tracks : dialect.Tracks log standing) {ms : Nat} :
    standing.timeout = some ms ↔ dialect.InForce log ms := by
  rw [← standing_timeout_iff, tracks.standing_eq]

/-- Without a session there is no timeout either. -/
theorem Tracks.timeout_eq_none (tracks : dialect.Tracks log standing) (sessionless : standing.session = none) :
    standing.timeout = none := by
  rw [← tracks.standing_eq] at sessionless ⊢
  rw [standing_sessionless sessionless]

end Dialect

end BrowserWait
