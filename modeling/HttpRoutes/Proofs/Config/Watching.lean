import HttpRoutes.Config.Watch
import HttpRoutes.Expression.Estimate
import Mathlib.Data.List.Induction
import Mathlib.Tactic.ByContra

/-!
# The configuration in force

What comes of watching a file. The watcher remembers the last text that it could read, valid or not,
and passes over a text that is the same. The memory is therefore no record of what has been sent,
and still no change is lost: the configuration in force is always that of the last valid text that
has been seen (`Watcher.inForce_eq_lastValid`), and a text that is passed over is either that one or
not valid.
-/

namespace HttpRoutes

/-- An event, and what the file holds when the event is handled. -/
structure Sighting where
  event : FileEvent
  file : FileContent

/-- The configuration that is sent. -/
def WatchOutcome.config? : WatchOutcome → Option Config
  | .accepted c => some c
  | .nothing | .unreadable _ | .rejected _ => none

namespace FileEvent

/-- Something that has the name of the file has been created or modified. -/
def Touches (e : FileEvent) (path : String) : Prop :=
  (e.change = .created ∨ e.change = .modified) ∧ ∃ p ∈ e.paths, baseName? p = baseName? path

instance (e : FileEvent) (path : String) : Decidable (e.Touches path) :=
  inferInstanceAs (Decidable (_ ∧ _))

end FileEvent

namespace Sighting

/-- The text that is seen, if the event touches the file and the file can be read. -/
def text? (path : String) (s : Sighting) : Option String :=
  if s.event.Touches path then s.file.text.toOption else none

variable {path : String} {s : Sighting}

theorem text_of_touches (htouches : s.event.Touches path) :
    s.text? path = s.file.text.toOption :=
  if_pos htouches

theorem text_of_not_touches (htouches : ¬ s.event.Touches path) : s.text? path = none :=
  if_neg htouches

end Sighting

/-- The texts that have been seen, the oldest first. The first is the one at the start, if the file
could be read then. -/
def textsSeen (path : String) (start : FileContent) (sightings : List Sighting) : List String :=
  start.text.toOption.toList ++ sightings.filterMap (Sighting.text? path)

/-- The configurations of the valid texts among several. -/
def validAmong [Engine] (texts : List String) : List Config :=
  texts.filterMap fun text => (Config.ofText text).toOption

theorem textsSeen_concat (path : String) (start : FileContent) (before : List Sighting)
    (s : Sighting) : textsSeen path start (before ++ [s]) =
      textsSeen path start before ++ (s.text? path).toList := by
  rw [textsSeen, List.filterMap_append, ← List.append_assoc]
  cases hs : s.text? path with
  | none => simp [textsSeen, hs]
  | some text => simp [textsSeen, hs]

/-- The last text counts if it is valid. -/
theorem validAmong_concat [Engine] (texts : List String) (text : String) :
    (validAmong (texts ++ [text])).getLast? =
      (Config.ofText text).toOption.or (validAmong texts).getLast? := by
  rw [validAmong, List.filterMap_append, List.getLast?_append]
  cases h : Config.ofText text with
  | error e => simp [h, Except.toOption, validAmong]
  | ok c => simp [h, Except.toOption]

/-- Seeing the last text once more makes no difference. -/
theorem validAmong_repeat [Engine] {texts : List String} {text : String}
    (hlast : texts.getLast? = some text) :
    (validAmong (texts ++ [text])).getLast? = (validAmong texts).getLast? := by
  obtain ⟨earlier, rfl⟩ := List.getLast?_eq_some_iff.1 hlast
  rw [validAmong_concat, validAmong_concat]
  cases (Config.ofText text).toOption with
  | none => rfl
  | some c => rfl

namespace Watcher

/-! ## One event -/

theorem concerns_iff {w : Watcher} {e : FileEvent} : w.concerns e = true ↔ e.Touches w.path := by
  simp [concerns, FileEvent.Touches]

section

variable [Engine]

/-- What handling an event does: nothing if no text is seen or the text is the last one, and
otherwise the text is remembered and its configuration is sent if it has one. -/
theorem handle_cases (w : Watcher) (s : Sighting) :
    let handled := w.handle s.event s.file
    (s.text? w.path = none ∧ handled.1.config? = none ∧ handled.2 = w) ∨
    ∃ text, s.text? w.path = some text ∧ handled.2 = { w with lastText := some text } ∧
      handled.1.config? =
        if w.lastText = some text then none else (Config.ofText text).toOption := by
  intro handled
  by_cases htouches : s.event.Touches w.path
  · have hconcerns : ¬ (!w.concerns s.event) = true := by simp [concerns_iff.2 htouches]
    rw [Sighting.text_of_touches htouches]
    have hhandled : handled = w.handle s.event s.file := rfl
    rw [handle, if_neg hconcerns] at hhandled
    cases htext : s.file.text with
    | error reason =>
      rw [htext] at hhandled
      exact .inl ⟨rfl, by rw [hhandled]; rfl, by rw [hhandled]⟩
    | ok text =>
      rw [htext] at hhandled
      refine .inr ⟨text, rfl, ?_⟩
      by_cases hsame : w.lastText = some text
      · simp only [if_pos hsame] at hhandled
        rw [hhandled, if_pos hsame, ← hsame]
        exact ⟨rfl, rfl⟩
      · simp only [if_neg hsame] at hhandled
        rw [hhandled, if_neg hsame]
        refine ⟨rfl, ?_⟩
        cases Config.ofText text <;> rfl
  · have hconcerns : (!w.concerns s.event) = true := by
      simpa using mt concerns_iff.1 htouches
    have hhandled : handled = (.nothing, w) := if_pos hconcerns
    exact .inl ⟨Sighting.text_of_not_touches htouches, by rw [hhandled]; rfl, by rw [hhandled]⟩

/-! ## Runs -/

/-- The watcher after events. -/
def after (w : Watcher) (sightings : List Sighting) : Watcher :=
  sightings.foldl (fun w s => (w.handle s.event s.file).2) w

/-- The configurations that are sent in the course of events, in order. -/
def sent (w : Watcher) : List Sighting → List Config
  | [] => []
  | s :: rest =>
    (w.handle s.event s.file).1.config?.toList ++ (w.handle s.event s.file).2.sent rest

/-- The configuration in force: the last one that has been sent, and before any has been sent, that
of the file at the start. -/
def inForce? (w : Watcher) (start : FileContent) (sightings : List Sighting) :
    Option Config :=
  (w.sent sightings).getLast?.or (Config.load start).toOption

theorem after_concat (w : Watcher) (before : List Sighting) (s : Sighting) :
    w.after (before ++ [s]) = ((w.after before).handle s.event s.file).2 := by
  rw [after, after, List.foldl_append, List.foldl_cons, List.foldl_nil]

theorem sent_concat (w : Watcher) (before : List Sighting) (s : Sighting) :
    w.sent (before ++ [s]) =
      w.sent before ++ ((w.after before).handle s.event s.file).1.config?.toList := by
  induction before generalizing w with
  | nil => simp [sent, after]
  | cons first rest ih =>
    rw [List.cons_append, sent, sent, ih, List.append_assoc]
    rfl

theorem inForce_concat (w : Watcher) (start : FileContent) (before : List Sighting)
    (s : Sighting) : w.inForce? start (before ++ [s]) =
      ((w.after before).handle s.event s.file).1.config?.or (w.inForce? start before) := by
  rw [inForce?, inForce?, sent_concat, List.getLast?_append]
  cases ((w.after before).handle s.event s.file).1.config? with
  | none => rfl
  | some c => rfl

end

section Started

variable {path : String} {hasDirectory : Bool} {start : FileContent} {w : Watcher}

theorem of_start (h : start? path hasDirectory start = some w) :
    w = ⟨path, start.text.toOption⟩ := by
  rw [start?] at h
  cases hasDirectory with
  | false => cases h
  | true => exact (Option.some.inj h).symm

section

variable [Engine]

/-- The memory of the watcher is the last text that has been seen. -/
theorem after_eq (h : start? path hasDirectory start = some w)
    (sightings : List Sighting) :
    w.after sightings = ⟨path, (textsSeen path start sightings).getLast?⟩ := by
  induction sightings using List.reverseRecOn with
  | nil =>
    rw [of_start h, after, List.foldl_nil, textsSeen, List.filterMap_nil, List.append_nil]
    cases start.text.toOption <;> rfl
  | append_singleton before s ih =>
    rw [after_concat, textsSeen_concat]
    obtain ⟨hnone, -, hnext⟩ | ⟨text, hsome, hnext, -⟩ := (w.after before).handle_cases s
    · rw [hnext, ih]
      rw [ih] at hnone
      rw [hnone, Option.toList_none, List.append_nil]
    · rw [hnext, ih]
      rw [ih] at hsome
      rw [hsome, Option.toList_some, List.getLast?_concat]

/-- No valid text is lost: the configuration in force is that of the last valid text that has been
seen. A text that is passed over is the last one seen, so that it changes neither side. -/
theorem inForce_eq_lastValid (h : start? path hasDirectory start = some w)
    (sightings : List Sighting) :
    w.inForce? start sightings = (validAmong (textsSeen path start sightings)).getLast? := by
  induction sightings using List.reverseRecOn with
  | nil =>
    rw [inForce?, textsSeen, List.filterMap_nil, List.append_nil, Config.load]
    cases start.text with
    | error reason => rfl
    | ok text =>
      have hlast := validAmong_concat [] text
      rw [List.nil_append] at hlast
      exact (Option.or_none).symm.trans hlast.symm
  | append_singleton before s ih =>
    rw [inForce_concat, textsSeen_concat, ih]
    obtain ⟨hnone, hconfig, -⟩ | ⟨text, hsome, -, hconfig⟩ := (w.after before).handle_cases s
    · rw [after_eq h] at hnone
      rw [hconfig, hnone, Option.toList_none, List.append_nil, Option.none_or]
    · rw [hconfig, after_eq h]
      rw [after_eq h] at hsome
      rw [hsome, Option.toList_some]
      by_cases hsame : (textsSeen path start before).getLast? = some text
      · rw [if_pos hsame, validAmong_repeat hsame, Option.none_or]
      · rw [if_neg hsame, validAmong_concat]

/-- An event at which no valid text is seen sends nothing. -/
theorem sent_of_none (h : start? path hasDirectory start = some w) {before : List Sighting}
    {s : Sighting} (hnone : (s.text? path).bind (fun t => (Config.ofText t).toOption) = none) :
    w.sent (before ++ [s]) = w.sent before := by
  rw [sent_concat]
  obtain ⟨-, hconfig, -⟩ | ⟨text, hsome, -, hconfig⟩ := (w.after before).handle_cases s
  · rw [hconfig, Option.toList_none, List.append_nil]
  · rw [after_eq h] at hsome
    rw [hsome, Option.bind_some] at hnone
    rw [hconfig, hnone, ite_self, Option.toList_none, List.append_nil]

/-- A text that is the last one seen is not sent again. -/
theorem sent_of_last (h : start? path hasDirectory start = some w) {before : List Sighting}
    {s : Sighting} {text : String}
    (hlast : (textsSeen path start before).getLast? = some text)
    (htext : s.file.text = .ok text) : w.sent (before ++ [s]) = w.sent before := by
  rw [sent_concat]
  obtain ⟨-, hconfig, -⟩ | ⟨found, hsome, -, hconfig⟩ := (w.after before).handle_cases s
  · rw [hconfig, Option.toList_none, List.append_nil]
  · have htouches : s.event.Touches (w.after before).path := by
      by_contra hnot
      rw [Sighting.text_of_not_touches hnot] at hsome
      cases hsome
    rw [Sighting.text_of_touches htouches, htext] at hsome
    cases hsome
    rw [hconfig, after_eq h, if_pos hlast, Option.toList_none, List.append_nil]

end

/-- After an event that creates or modifies the file and finds a valid text, the configuration of
that text is in force, whatever was seen before. A text that is the last one seen is not sent. An
event that does not concern the file, or that finds it unreadable or its text not valid, sends
nothing and leaves the configuration in force as it was. At every time that is the configuration of
the last valid text that has been seen, the text at the start being the first. -/
theorem in_force_follows_file [Engine] (h : start? path hasDirectory start = some w)
    (before : List Sighting) (s : Sighting) :
    (∀ text c, s.event.Touches path → s.file.text = .ok text → Config.ofText text = .ok c →
      w.inForce? start (before ++ [s]) = some c) ∧
    (∀ text, (textsSeen path start before).getLast? = some text → s.file.text = .ok text →
      w.sent (before ++ [s]) = w.sent before) ∧
    ((¬ s.event.Touches path ∨ (∃ reason, s.file.text = .error reason) ∨
        ∃ text e, s.file.text = .ok text ∧ Config.ofText text = .error e) →
      w.sent (before ++ [s]) = w.sent before ∧
      w.inForce? start (before ++ [s]) = w.inForce? start before) ∧
    w.inForce? start before = (validAmong (textsSeen path start before)).getLast? := by
  refine ⟨?_, ?_, ?_, inForce_eq_lastValid h before⟩
  · intro text c htouches htext hvalid
    have hseen : s.text? path = some text := by
      rw [Sighting.text_of_touches htouches, htext]
      rfl
    rw [inForce_eq_lastValid h, textsSeen_concat, hseen, Option.toList_some, validAmong_concat,
      hvalid]
    rfl
  · intro text hlast htext
    exact sent_of_last h hlast htext
  · intro hignored
    have hnone : (s.text? path).bind (fun t => (Config.ofText t).toOption) = none := by
      rcases hignored with hnot | ⟨reason, hreason⟩ | ⟨text, e, htext, he⟩
      · rw [Sighting.text_of_not_touches hnot]
        rfl
      · simp [Sighting.text?, hreason, Except.toOption]
      · by_cases htouches : s.event.Touches path
        · rw [Sighting.text_of_touches htouches, htext]
          show (Config.ofText text).toOption = none
          rw [he]
          rfl
        · rw [Sighting.text_of_not_touches htouches]
          rfl
    have hsent : w.sent (before ++ [s]) = w.sent before := sent_of_none h hnone
    refine ⟨hsent, ?_⟩
    rw [inForce?, inForce?, hsent]

/-- A valid text, then one that is not valid, then an unreadable file, then the first text again,
and once more. It is sent once. -/
theorem in_force_after_broken_text :
    let path := "conf/routes.toml"
    let saved (text : String) : Sighting :=
      ⟨⟨.modified, ["/srv/conf/routes.toml"]⟩, .bytes text.toUTF8⟩
    let before : List Sighting :=
      [saved "debug = ", ⟨⟨.created, ["routes.toml"]⟩, .missing⟩,
        ⟨⟨.modified, ["other"]⟩, .missing⟩]
    let again := saved "debug = true"
    let config : Config := { Config.default with debug := true }
    ∃ w, start? path true (.bytes "debug = true".toUTF8) = some w ∧
      again.event.Touches path ∧ Config.ofText "debug = true" = .ok config ∧
      w.inForce? (.bytes "debug = true".toUTF8) (before ++ [again]) = some config ∧
      w.sent (before ++ [again]) = [config] ∧
      w.sent (before ++ [again] ++ [again]) = w.sent (before ++ [again]) := by
  intro path saved before again config
  have hstart : start? path true (.bytes "debug = true".toUTF8) =
      some ⟨path, some "debug = true"⟩ := by decide +kernel
  have hvalid : Config.ofText "debug = true" = .ok config := by decide +kernel
  have htouches : again.event.Touches path := by decide +kernel
  have htext : again.file.text = .ok "debug = true" := by decide +kernel
  refine ⟨_, hstart, htouches, hvalid, ?_, by decide +kernel, ?_⟩
  · exact (in_force_follows_file hstart before again).1 _ _ htouches htext hvalid
  · exact (in_force_follows_file hstart (before ++ [again]) again).2.1 _ (by decide +kernel) htext

end Started

end Watcher

end HttpRoutes
