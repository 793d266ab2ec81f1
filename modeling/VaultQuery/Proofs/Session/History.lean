import Mathlib.Data.List.Induction
import VaultQuery.Session

namespace VaultQuery

namespace Search

-- Blank texts and queries can be read.
def canRead (text : String) : Bool :=
  (compile text).isOk

theorem compile_cases (text : String) :
    (Text.isBlankText text = true ∧ compile text = .ok ⟨text, none⟩) ∨
      (Text.isBlankText text = false ∧
        ((∃ query, Query.parse text = .ok query ∧ compile text = .ok ⟨text, some query⟩) ∨
          ∃ error, Query.parse text = .error error ∧ compile text = .error error)) := by
  unfold compile
  cases Text.isBlankText text with
  | true => exact .inl ⟨rfl, rfl⟩
  | false =>
      refine .inr ⟨rfl, ?_⟩
      cases Query.parse text with
      | ok query => exact .inl ⟨query, rfl, rfl⟩
      | error error => exact .inr ⟨error, rfl, rfl⟩

theorem of_compile_ok {text : String} {search : Search} (h : compile text = .ok search) :
    search.text = text ∧ search.isEmpty = Text.isBlankText text := by
  rcases compile_cases text with ⟨hb, hc⟩ | ⟨hb, ⟨query, _, hc⟩ | ⟨error, _, hc⟩⟩
  · cases hc.symm.trans h
    exact ⟨rfl, hb.symm⟩
  · cases hc.symm.trans h
    exact ⟨rfl, hb.symm⟩
  · cases hc.symm.trans h

theorem parse_of_compile_error {text : String} {error : Query.SyntaxError}
    (h : compile text = .error error) : Query.parse text = .error error := by
  rcases compile_cases text with ⟨_, hc⟩ | ⟨_, ⟨query, _, hc⟩ | ⟨other, hq, hc⟩⟩
  · cases hc.symm.trans h
  · cases hc.symm.trans h
  · cases hc.symm.trans h
    exact hq

theorem canRead_of_ok {text : String} {search : Search} (h : compile text = .ok search) :
    canRead text = true := by
  rw [canRead, h]
  rfl

theorem canRead_of_error {text : String} {error : Query.SyntaxError}
    (h : compile text = .error error) : canRead text = false := by
  rw [canRead, h]
  rfl

end Search

namespace Session

-- The session after some edits of a new one.
def edited (texts : List String) : Session :=
  texts.foldl (fun session text => (session.update text).1) empty

-- The last text that could be read, blank ones included.
def lastRead (texts : List String) : String :=
  (texts.filter Search.canRead).getLast?.getD ""

-- Some texts that could not be read have been left out.
inductive Thinned : List String → List String → Prop where
  | nil : Thinned [] []
  | keep {texts kept : List String} (text : String) (h : Thinned texts kept) :
    Thinned (text :: texts) (text :: kept)
  | drop {texts kept : List String} {text : String} (ht : Search.canRead text = false)
    (h : Thinned texts kept) : Thinned (text :: texts) kept

-- What is active once a text has been read.
def activated (search : Search) : Option Search :=
  if search.isEmpty then none else some search

theorem update_of_ok {text : String} {search : Search} (h : Search.compile text = .ok search)
    (session : Session) :
    (session.update text).1 = ⟨activated search, none⟩ ∧
      ∀ error, (session.update text).2 ≠ .invalid error := by
  simp only [update, activated, h]
  cases search.isEmpty <;> simp

theorem update_of_error {text : String} {error : Query.SyntaxError}
    (h : Search.compile text = .error error) (session : Session) :
    session.update text = (⟨session.active, some error⟩, .invalid error) := by
  unfold update
  rw [h]

-- An edit replaces the last error, so only the active query of a session tells in what follows.
theorem update_congr {first second : Session} (h : first.active = second.active) (text : String) :
    first.update text = second.update text := by
  unfold update
  rw [h]

theorem edited_concat (texts : List String) (text : String) :
    edited (texts ++ [text]) = ((edited texts).update text).1 := by
  simp [edited]

theorem lastRead_concat (texts : List String) (text : String) :
    lastRead (texts ++ [text]) = if Search.canRead text then text else lastRead texts := by
  unfold lastRead
  rw [List.filter_append]
  cases h : Search.canRead text <;> simp [h]

-- The invariant of the run: what is active is what the last text that could be read has led to.
theorem active_edited (texts : List String) :
    ∃ search, Search.compile (lastRead texts) = .ok search ∧
      (edited texts).active = activated search := by
  induction texts using List.reverseRecOn with
  | nil => exact ⟨⟨"", none⟩, rfl, rfl⟩
  | append_singleton texts text ih =>
      rw [lastRead_concat, edited_concat]
      cases hc : Search.compile text with
      | ok search =>
          rw [if_pos (Search.canRead_of_ok hc), (update_of_ok hc _).1]
          exact ⟨search, hc, rfl⟩
      | error error =>
          rw [Search.canRead_of_error hc, update_of_error hc]
          exact ih

theorem lastError_update (session : Session) (text : String) (error : Query.SyntaxError) :
    (session.update text).1.lastError = some error ↔
      (session.update text).2 = .invalid error := by
  cases hc : Search.compile text with
  | ok search =>
      obtain ⟨hstate, houtcome⟩ := update_of_ok hc session
      simp [hstate, houtcome]
  | error other => simp [update_of_error hc]

theorem lastError_edited (texts : List String) (error : Query.SyntaxError) :
    (edited texts).lastError = some error ↔
      ∃ before text, texts = before ++ [text] ∧
        ((edited before).update text).2 = .invalid error := by
  induction texts using List.reverseRecOn with
  | nil => simp [edited, empty]
  | append_singleton texts text _ =>
      rw [edited_concat, lastError_update]
      constructor
      · intro h
        exact ⟨texts, text, rfl, h⟩
      · rintro ⟨before, last, he, h⟩
        obtain ⟨rfl, hlast⟩ := List.append_inj' he rfl
        cases hlast
        exact h

-- Both runs start from sessions that show the same, since the texts left out change the error.
theorem Thinned.active_eq {texts kept : List String} (h : Thinned texts kept)
    {first second : Session} (hs : first.active = second.active) :
    (kept.foldl (fun session text => (session.update text).1) first).active =
      (texts.foldl (fun session text => (session.update text).1) second).active := by
  induction h generalizing first second with
  | nil => exact hs
  | keep text _ ih =>
      rw [List.foldl_cons, List.foldl_cons, update_congr hs]
      exact ih rfl
  | @drop texts kept text ht _ ih =>
      rw [List.foldl_cons]
      apply ih
      cases hc : Search.compile text with
      | ok search =>
          rw [Search.canRead_of_ok hc] at ht
          cases ht
      | error error => rw [update_of_error hc, hs]

-- A session answers like the text whose search is active.
theorem select_of_activated [Website.Services] {session : Session} {text : String} {search : Search}
    (hc : Search.compile text = .ok search) (ha : session.active = activated search)
    (vault : Vault) (options : Options) :
    VaultQuery.select text vault options = .ok (session.select vault options) := by
  obtain ⟨source, query⟩ := search
  cases query <;> simp [VaultQuery.select, Session.select, hc, ha, activated, Search.isEmpty,
    Search.run, Except.map]

theorem highlights_of_activated {session : Session} {search : Search}
    (ha : session.active = activated search) : session.highlights = search.highlights := by
  obtain ⟨source, query⟩ := search
  cases query <;> simp [Session.highlights, Search.highlights, ha, activated, Search.isEmpty]

-- After any edits a session answers every vault like the last text that could be read, and never
-- with an error. It marks what that text asks for, has nothing active if that text is blank and
-- the text itself otherwise. It shows an error if the last edit has failed, the one the edit has
-- reported and reading its text gives. Edits that failed before the last one make no difference.
theorem edited_shows_lastRead [Website.Services] (texts : List String) :
    (∀ vault options, VaultQuery.select (lastRead texts) vault options =
      .ok ((edited texts).select vault options)) ∧
    (∃ search, Search.compile (lastRead texts) = .ok search ∧
      (edited texts).highlights = search.highlights) ∧
    ((edited texts).active = none ↔ Text.isBlankText (lastRead texts) = true) ∧
    (∀ search, (edited texts).active = some search → search.text = lastRead texts) ∧
    (∀ error, (edited texts).lastError = some error ↔
      ∃ before last, texts = before ++ [last] ∧
        ((edited before).update last).2 = .invalid error) ∧
    ∀ before last, texts = before ++ [last] →
      (∀ error, ((edited before).update last).2 = .invalid error ↔
        Search.compile last = .error error) ∧
      (∀ error, Search.compile last = .error error → Query.parse last = .error error) ∧
      ∀ kept, Thinned before kept → (edited kept).update last = (edited before).update last := by
  obtain ⟨search, hc, ha⟩ := active_edited texts
  obtain ⟨htext, hempty⟩ := Search.of_compile_ok hc
  refine ⟨select_of_activated hc ha, ⟨search, hc, highlights_of_activated ha⟩, ?_, ?_,
    lastError_edited texts, ?_⟩
  · rw [ha, activated, ← hempty]
    cases search.isEmpty <;> simp
  · intro active hactive
    rw [ha, activated] at hactive
    split at hactive
    · cases hactive
    · cases hactive
      exact htext
  · intro before last _
    refine ⟨?_, fun error h => Search.parse_of_compile_error h, ?_⟩
    · intro error
      cases hl : Search.compile last with
      | ok found => simp [(update_of_ok hl (edited before)).2]
      | error other => simp [update_of_error hl]
    · intro kept hthin
      exact update_congr (hthin.active_eq rfl) last

-- Half a query leaves the query before it in charge.
example : (edited ["a", "a AND"]).active.map Search.text = some "a" ∧
    (edited ["a", "a AND"]).lastError.isSome = true := by
  decide

end Session

end VaultQuery
