import Subgen.Journal.MinDuration
import Subgen.Lib.Spans

/-!
# Merged payloads

The merge of two payloads keeps the left one, up to its end, text, tokens and words. It is
associative, so that a group of cues has one merge.

A payload is a dictionary, and a merge removes some keys and sets others. In which order the keys come
is part of the payload, as it is written to the journal, so associativity is an equality of dictionaries with
their order. A merge is therefore split into two steps: what happens to the end, the text and the tokens, which
keep their places (`retimed`), and to the words (`rewritten`). Each of them absorbs a step of the same
kind before it, and they commute as far as they have to; the algebra of `set`, `put` and `pop` that this rests
on stands first.

* `mergeSegmentPayloads_assoc`;
* `spanning_mergeSegmentPayloads`: a merge starts with the left cue and ends with the right one.
-/

namespace Subgen

open Spans

namespace Dict

variable {items : Dict} {name other : String}

/-- Whether there is an item of the name. -/
def has (items : Dict) (name : String) : Bool := items.any (·.1 = name)

@[simp] theorem get_cons (item : String × Value) (items : Dict) (name : String) :
    Dict.get (item :: items) name = if item.1 = name then item.2 else items.get name := by
  rw [get, List.lookup_cons]
  by_cases h : item.1 = name
  · rw [if_pos h, beq_iff_eq.2 h.symm]
    rfl
  · rw [if_neg h, beq_false_of_ne (Ne.symm h)]
    rfl

@[simp] theorem set_cons (item : String × Value) (items : Dict) (name : String) (value : Value) :
    Dict.set (item :: items) name value =
      (if item.1 = name then (name, value) else item) :: items.set name value := rfl

@[simp] theorem pop_cons (item : String × Value) (items : Dict) (name : String) :
    Dict.pop (item :: items) name = if item.1 = name then items.pop name else item :: items.pop name := by
  by_cases h : item.1 = name <;> simp [pop, h]

@[simp] theorem put_nil (name : String) (value : Value) :
    Dict.put [] name value = [(name, value)] := rfl

@[simp] theorem put_cons (item : String × Value) (items : Dict) (name : String) (value : Value) :
    Dict.put (item :: items) name value =
      if item.1 = name then (name, value) :: items.set name value
      else item :: items.put name value := by
  by_cases h : item.1 = name
  · rw [if_pos h, put, List.any_cons, decide_eq_true h, Bool.true_or, if_pos rfl, set_cons, if_pos h]
  · rw [if_neg h, put, List.any_cons, decide_eq_false h, Bool.false_or, set_cons, if_neg h, put]
    split_ifs <;> rfl

@[simp] theorem has_cons (item : String × Value) (items : Dict) (name : String) :
    Dict.has (item :: items) name = (decide (item.1 = name) || items.has name) := List.any_cons

/-- An item that is put is there. -/
theorem has_put (items : Dict) (name : String) (value : Value) :
    (items.put name value).has name = true := by
  induction items with
  | nil => simp [has]
  | cons item items ih => by_cases h : item.1 = name <;> simp [h, ih]

/-- An item that is set was there, or is not. -/
theorem has_set (items : Dict) (name other : String) (value : Value) :
    (items.set other value).has name = items.has name := by
  induction items with
  | nil => rfl
  | cons item items ih => by_cases h : item.1 = other <;> simp [h, ih]

/-- Another name is there as before. -/
theorem has_put_of_ne (items : Dict) (h : name ≠ other) (value : Value) :
    (items.put other value).has name = items.has name := by
  induction items with
  | nil => simp [has, h.symm]
  | cons item items ih => by_cases ho : item.1 = other <;> simp [ho, ih, has_set]

/-- The second of two settings counts. -/
theorem set_set (items : Dict) (name : String) (value value' : Value) :
    (items.set name value).set name value' = items.set name value' := by
  induction items with
  | nil => rfl
  | cons item items ih => by_cases h : item.1 = name <;> simp [h, ih]

/-- Different names are set in any order. -/
theorem set_comm (items : Dict) (h : name ≠ other) (value value' : Value) :
    (items.set other value').set name value = (items.set name value).set other value' := by
  induction items with
  | nil => rfl
  | cons item items ih =>
    by_cases ho : item.1 = other <;> by_cases hn : item.1 = name <;> simp_all [h.symm]

/-- A name is set before or behind another one is put. -/
theorem set_put (items : Dict) (h : name ≠ other) (value value' : Value) :
    (items.put other value').set name value = (items.set name value).put other value' := by
  induction items with
  | nil => simp [set, h.symm]
  | cons item items ih =>
    by_cases ho : item.1 = other
    · simp [ho, h.symm, set_comm items h]
    · by_cases hn : item.1 = name <;> simp [ho, hn, h, ih]

/-- The second of two puts counts. -/
theorem put_put (items : Dict) (name : String) (value value' : Value) :
    (items.put name value).put name value' = items.put name value' := by
  induction items with
  | nil => simp [set]
  | cons item items ih => by_cases h : item.1 = name <;> simp [h, set_set, ih]

/-- Two writes commute if one of the names is there. -/
theorem put_comm (hitems : items.has name = true) (h : name ≠ other) (value value' : Value) :
    (items.put other value').put name value = (items.put name value).put other value' := by
  have hset : ∀ items : Dict, items.has name = true → items.put name value = items.set name value :=
    fun items hitems => if_pos hitems
  rw [hset items hitems, hset _ ((has_put_of_ne items h value').trans hitems), set_put items h]

/-- What is popped does not remember what was put. -/
theorem pop_put (items : Dict) (name : String) (value : Value) :
    (items.put name value).pop name = items.pop name := by
  have hset : ∀ items : Dict, (items.set name value).pop name = items.pop name := by
    intro items
    induction items with
    | nil => rfl
    | cons item items ih => by_cases h : item.1 = name <;> simp [h, ih]
  induction items with
  | nil => simp [pop]
  | cons item items ih => by_cases h : item.1 = name <;> simp [h, ih, hset]

/-- A name is put before or behind another one is popped. -/
theorem put_pop (items : Dict) (h : name ≠ other) (value : Value) :
    (items.pop other).put name value = (items.put name value).pop other := by
  have hset : ∀ items : Dict, (items.set name value).pop other = (items.pop other).set name value := by
    intro items
    induction items with
    | nil => rfl
    | cons item items ih =>
      by_cases ho : item.1 = other <;> by_cases hn : item.1 = name <;> simp_all
  induction items with
  | nil => simp [pop, h]
  | cons item items ih =>
    by_cases ho : item.1 = other <;> by_cases hn : item.1 = name <;> simp_all

/-- A second pop finds nothing. -/
theorem pop_pop (items : Dict) (name : String) : (items.pop name).pop name = items.pop name := by
  rw [pop, pop, List.filter_filter]
  exact List.filter_congr fun item _ => by rw [Bool.and_self]

/-- What is put is got. -/
theorem get_put (items : Dict) (name : String) (value : Value) :
    (items.put name value).get name = value := by
  induction items with
  | nil => simp
  | cons item items ih => by_cases h : item.1 = name <;> simp [h, ih]

/-- Another name is got as before. -/
theorem get_put_of_ne (items : Dict) (h : name ≠ other) (value : Value) :
    (items.put other value).get name = items.get name := by
  have hset : ∀ items : Dict, (items.set other value).get name = items.get name := by
    intro items
    induction items with
    | nil => rfl
    | cons item items ih => by_cases ho : item.1 = other <;> simp [ho, ih, h.symm]
  induction items with
  | nil => simp [h.symm]
  | cons item items ih => by_cases ho : item.1 = other <;> simp [ho, ih, h.symm, hset]

/-- What is popped is gone. -/
theorem get_pop (items : Dict) (name : String) : (items.pop name).get name = .none := by
  induction items with
  | nil => rfl
  | cons item items ih => by_cases h : item.1 = name <;> simp [h, ih]

/-- Another name stays. -/
theorem get_pop_of_ne (items : Dict) (h : name ≠ other) :
    (items.pop other).get name = items.get name := by
  induction items with
  | nil => rfl
  | cons item items ih => by_cases ho : item.1 = other <;> simp [ho, ih, h.symm]

/-- A cue with another end, text and tokens. -/
def retimed (items : Dict) (stop text tokens : Value) : Dict :=
  ((items.put "end" stop).put "text" text).put "tokens" tokens

/-- The same, and with other words, or without words. -/
def rewritten (items : Dict) (stop text tokens : Value) : Option Value → Dict
  | some words => (items.retimed stop text tokens).put "words" words
  | none => (items.retimed stop text tokens).pop "words"

section Retimed

variable (items : Dict) (stop text tokens stop' text' tokens' : Value)

/-- The end is there. -/
theorem has_end_retimed : (items.retimed stop text tokens).has "end" = true :=
  (has_put_of_ne _ (by decide) _).trans ((has_put_of_ne _ (by decide) _).trans (has_put _ _ _))

/-- So is the text. -/
theorem has_text_retimed : (items.retimed stop text tokens).has "text" = true :=
  (has_put_of_ne _ (by decide) _).trans (has_put _ _ _)

/-- So are the tokens. -/
theorem has_tokens_retimed : (items.retimed stop text tokens).has "tokens" = true := has_put _ _ _

/-- Another end takes the place of the first one. -/
theorem put_end_retimed :
    (items.retimed stop text tokens).put "end" stop' = items.retimed stop' text tokens := by
  have hend := has_put items "end" stop
  have htext := (has_put_of_ne _ (by decide : "end" ≠ "text") text).trans hend
  rw [retimed, put_comm htext (by decide : "end" ≠ "tokens"),
    put_comm hend (by decide : "end" ≠ "text"), put_put, retimed]

/-- Another text does. -/
theorem put_text_retimed :
    (items.retimed stop text tokens).put "text" text' = items.retimed stop text' tokens := by
  have htext := has_put (items.put "end" stop) "text" text
  rw [retimed, put_comm htext (by decide : "text" ≠ "tokens"), put_put, retimed]

/-- Writes to a cue that was written to before. -/
theorem retimed_retimed :
    (items.retimed stop text tokens).retimed stop' text' tokens' =
      items.retimed stop' text' tokens' := by
  rw [retimed.eq_1 (items.retimed stop text tokens), put_end_retimed, put_text_retimed, retimed,
    put_put, retimed]

/-- The words stand beside what is retimed. -/
theorem retimed_put_words (words : Value) :
    ((items.retimed stop text tokens).put "words" words).retimed stop' text' tokens' =
      (items.retimed stop' text' tokens').put "words" words := by
  rw [retimed.eq_1 (Dict.put _ _ _),
    put_comm (has_end_retimed items stop text tokens) (by decide : "end" ≠ "words"),
    put_end_retimed,
    put_comm (has_text_retimed items stop' text tokens) (by decide : "text" ≠ "words"),
    put_text_retimed,
    put_comm (has_tokens_retimed items stop' text' tokens) (by decide : "tokens" ≠ "words"),
    retimed, put_put, retimed]

/-- They may be taken away before. -/
theorem retimed_pop_words :
    (items.pop "words").retimed stop text tokens = (items.retimed stop text tokens).pop "words" := by
  rw [retimed, put_pop _ (by decide), put_pop _ (by decide), put_pop _ (by decide), retimed]

/-- A cue that is written twice keeps nothing of the first time, unless words come back. -/
theorem rewritten_rewritten {words words' : Option Value} (h : words = none → words' = none) :
    (items.rewritten stop text tokens words).rewritten stop' text' tokens' words' =
      items.rewritten stop' text' tokens' words' := by
  rcases words with _ | words
  · obtain rfl := h rfl
    rw [rewritten, rewritten, rewritten, retimed_pop_words, retimed_retimed, pop_pop]
  · rcases words' with _ | words'
    · rw [rewritten, rewritten, rewritten, retimed_put_words, pop_put]
    · rw [rewritten, rewritten, rewritten, retimed_put_words, put_put]

end Retimed

/-- The other names are got as before. -/
theorem get_retimed (name : String) (hend : name ≠ "end") (htext : name ≠ "text")
    (htokens : name ≠ "tokens") (items : Dict) (stop text tokens : Value) :
    (items.retimed stop text tokens).get name = items.get name := by
  rw [retimed, get_put_of_ne _ htokens, get_put_of_ne _ htext, get_put_of_ne _ hend]

/-- The other names are got as before, the words apart. -/
theorem get_rewritten {name : String} (h : name ≠ "words") (items : Dict)
    (stop text tokens : Value) (words : Option Value) :
    (items.rewritten stop text tokens words).get name =
      (items.retimed stop text tokens).get name := by
  rcases words with _ | words
  · exact get_pop_of_ne _ h
  · exact get_put_of_ne _ h _

/-- The words are the new ones, or none. -/
theorem get_words_rewritten (items : Dict) (stop text tokens : Value) (words : Option Value) :
    (items.rewritten stop text tokens words).get "words" = words.getD .none := by
  rcases words with _ | words
  · exact get_pop _ _
  · exact get_put _ _ _

end Dict

/-! ## Merges -/

/-- Lists may be joined from the left or from the right. -/
theorem joinLists_assoc (a b c : Value) :
    joinLists ((joinLists a b).getD .none) c = joinLists a ((joinLists b c).getD .none) := by
  rcases a with _ | _ | _ | _ | _ | _ | l | _ | _
  case list =>
    rcases b with _ | _ | _ | _ | _ | _ | l' | _ | _
    case list =>
      rcases c with _ | _ | _ | _ | _ | _ | l'' | _ | _
      case list => exact congrArg (some ∘ Value.list) (List.append_assoc l l' l'')
      all_goals rfl
    all_goals rfl
  all_goals rfl

variable (left right : Dict)

/-- Two payloads merged: the first one, rewritten with what comes from the second. -/
theorem mergeSegmentPayloads_eq :
    mergeSegmentPayloads left right =
      left.rewritten (.float (right.float "end")) (.str (left.text ++ right.text))
        ((joinLists (left.get "tokens") (right.get "tokens")).getD .none)
        (joinLists (left.get "words") (right.get "words")) := by
  unfold mergeSegmentPayloads Dict.rewritten
  rcases joinLists (left.get "words") (right.get "words") with _ | words <;> rfl

/-- The other names come from the first one. -/
theorem get_merge {name : String} (hend : name ≠ "end") (htext : name ≠ "text")
    (htokens : name ≠ "tokens") (hwords : name ≠ "words") :
    (mergeSegmentPayloads left right).get name = left.get name := by
  rw [mergeSegmentPayloads_eq, Dict.get_rewritten hwords, Dict.get_retimed name hend htext htokens]

/-- It begins where the first one does. -/
theorem start_merge : (mergeSegmentPayloads left right).float "start" = left.float "start" := by
  rw [Dict.float, get_merge left right (by decide) (by decide) (by decide) (by decide)]
  rfl

/-- It ends where the second one does. -/
theorem stop_merge : (mergeSegmentPayloads left right).float "end" = right.float "end" := by
  rw [Dict.float, mergeSegmentPayloads_eq, Dict.get_rewritten (by decide), Dict.retimed,
    Dict.get_put_of_ne _ (by decide), Dict.get_put_of_ne _ (by decide), Dict.get_put]

/-- Its text is that of the first and then of the second one. -/
theorem text_merge : (mergeSegmentPayloads left right).text = left.text ++ right.text := by
  rw [Dict.text, mergeSegmentPayloads_eq, Dict.get_rewritten (by decide), Dict.retimed,
    Dict.get_put_of_ne _ (by decide), Dict.get_put]

/-- So are its tokens. -/
theorem tokens_merge : (mergeSegmentPayloads left right).get "tokens" =
    (joinLists (left.get "tokens") (right.get "tokens")).getD .none := by
  rw [mergeSegmentPayloads_eq, Dict.get_rewritten (by decide), Dict.retimed, Dict.get_put]

/-- So are its words. -/
theorem words_merge : (mergeSegmentPayloads left right).get "words" =
    (joinLists (left.get "words") (right.get "words")).getD .none := by
  rw [mergeSegmentPayloads_eq, Dict.get_words_rewritten]

/-- Three payloads may be merged from the left or from the right. -/
theorem mergeSegmentPayloads_assoc (a b c : Dict) :
    mergeSegmentPayloads (mergeSegmentPayloads a b) c =
      mergeSegmentPayloads a (mergeSegmentPayloads b c) := by
  rw [mergeSegmentPayloads_eq (mergeSegmentPayloads a b) c,
    mergeSegmentPayloads_eq a (mergeSegmentPayloads b c), text_merge, text_merge, tokens_merge,
    tokens_merge, words_merge, words_merge, joinLists_assoc, joinLists_assoc, stop_merge,
    String.append_assoc, mergeSegmentPayloads_eq a b]
  refine Dict.rewritten_rewritten a _ _ _ _ _ _ fun hnone => ?_
  rw [← joinLists_assoc, hnone]
  rfl

/-- A merge of two cues spans both. -/
theorem spanning_mergeSegmentPayloads :
    Spanning (Dict.float · "start") (Dict.float · "end") mergeSegmentPayloads :=
  ⟨start_merge, stop_merge⟩

end Subgen
