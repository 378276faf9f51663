import ParseBench.Proofs.Binding.Parser

set_option relaxedAutoImplicit false
set_option autoImplicit false

/-!
# Normalization of raw values

A raw value is normalized by its fields alone: the root has to be a text, the errors and the
comments have to be something that can be gone through, and each of their members has to be
convertible. Which values have an outcome, and which one, is said without the order in which things
are converted. It does not matter whether a value or one of its comments is a record or an object,
nor in which mode the parser was called.

## Main definitions

* `ParseBench.Binding.Listed`, `ParseBench.Binding.members` — fields that can be gone through, and
  their members.
* `ParseBench.Binding.Comment.Describes`, `ParseBench.Binding.Outcome.Describes` — the comment and
  the outcome that raw values describe.
* `ParseBench.Binding.Comment.Alike`, `ParseBench.Binding.Outcome.Alike` — raw values with the same
  fields.

## Main results

* `ParseBench.Binding.Outcome.ofRaw_exact` — which values have an outcome, and which one.
* `ParseBench.Binding.Raw.field?_record` — a record and an object with the same fields.
* `ParseBench.Binding.Outcome.ofRaw_of_alike` — values with the same fields are normalized alike.
* `ParseBench.Parser.parse_representation` — how an answer is represented does not matter.
-/

namespace ParseBench

namespace Binding

/-! ## Fields that can be gone through -/

/-- A field is missing, or its value does not count, or its value is a list, a text or a record. -/
inductive Listed : Option Raw → Prop
  | missing : Listed none
  | empty {v : Raw} (h : v.truthy = false) : Listed (some v)
  | list (items : List Raw) : Listed (some (.list items))
  | text (s : String) : Listed (some (.text s))
  | record (fields : List (Key × Raw)) : Listed (some (.record fields))

/-- The members of a field: the items of a list, the characters of a text, the keys of a record, and
otherwise nothing. -/
def members : Option Raw → List Raw
  | some (.list items) => items
  | some (.text s) => s.toList.map fun c => .text (String.ofList [c])
  | some (.record fields) => fields.map fun f => f.1.toRaw
  | _ => []

/-- A scalar can be gone through exactly if it does not count. -/
lemma listed_iff_of_scalar {v : Raw} (hlist : ∀ items, v ≠ .list items) (htext : ∀ s, v ≠ .text s)
    (hrecord : ∀ fields, v ≠ .record fields) : Listed (some v) ↔ v.truthy = false := by
  constructor
  · intro h
    cases h with
    | empty h => exact h
    | list items => exact absurd rfl (hlist items)
    | text s => exact absurd rfl (htext s)
    | record fields => exact absurd rfl (hrecord fields)
  · exact .empty

/-- **A field is gone through** exactly if it is missing, does not count, or is a list, a text or a
record. -/
lemma elements_eq_ok_iff {field : Option Raw} {items : List Raw} :
    (field.getD .none).elements = .ok items ↔ Listed field ∧ members field = items := by
  cases field with
  | none => simp [Raw.elements, Raw.truthy, members, Listed.missing]
  | some v =>
    rw [Option.getD_some]
    cases v with
    | list xs => simp [Raw.elements, members, Listed.list]
    | text s => simp [Raw.elements, members, Listed.text]
    | record fields => simp [Raw.elements, members, Listed.record]
    | none => simp [listed_iff_of_scalar, Raw.elements, Raw.truthy, members]
    | bool b => cases b <;> simp [listed_iff_of_scalar, Raw.elements, Raw.truthy, members]
    | int n =>
      by_cases h : n = 0 <;> simp [listed_iff_of_scalar, Raw.elements, Raw.truthy, members, h]
    | float x =>
      cases h : (x != 0.0) <;> simp [listed_iff_of_scalar, Raw.elements, Raw.truthy, members, h]
    | object attributes => simp [listed_iff_of_scalar, Raw.elements, Raw.truthy, members]

/-! ## Comments -/

/-- A raw value describes a comment: its fields, or an empty text and zeros in their place, are
converted to those of the comment. -/
structure Comment.Describes (c : Raw) (comment : Comment) : Prop where
  value : ((c.field? "value").getD (.text "")).toText = .ok comment.value
  start : ((c.field? "start").getD (.int 0)).toInt = .ok comment.start
  stop : ((c.field? "end").getD (.int 0)).toInt = .ok comment.stop

/-- A comment is read from exactly the values that describe it. -/
lemma Comment.ofRaw_eq_ok_iff {c : Raw} {comment : Comment} :
    Comment.ofRaw c = .ok comment ↔ Comment.Describes c comment := by
  rw [Comment.ofRaw, bind_eq_ok_iff]
  constructor
  · rintro ⟨value, hvalue, h⟩
    obtain ⟨start, hstart, h⟩ := bind_eq_ok_iff.1 h
    obtain ⟨stop, hstop, h⟩ := bind_eq_ok_iff.1 h
    cases h
    exact ⟨hvalue, hstart, hstop⟩
  · rintro ⟨hvalue, hstart, hstop⟩
    exact ⟨_, hvalue, bind_eq_ok_iff.2 ⟨_, hstart, bind_eq_ok_iff.2 ⟨_, hstop, rfl⟩⟩⟩

/-- A comment can be read exactly if its text, its start and its end can, where each has its
default. -/
lemma Comment.exists_ofRaw_iff {c : Raw} :
    (∃ comment, Comment.ofRaw c = .ok comment) ↔
      (∃ s, ((c.field? "value").getD (.text "")).toText = .ok s) ∧
      (∃ n, ((c.field? "start").getD (.int 0)).toInt = .ok n) ∧
      ∃ n, ((c.field? "end").getD (.int 0)).toInt = .ok n := by
  constructor
  · rintro ⟨comment, h⟩
    obtain ⟨hvalue, hstart, hstop⟩ := Comment.ofRaw_eq_ok_iff.1 h
    exact ⟨⟨_, hvalue⟩, ⟨_, hstart⟩, _, hstop⟩
  · rintro ⟨⟨value, hvalue⟩, ⟨start, hstart⟩, stop, hstop⟩
    exact ⟨⟨value, start, stop⟩, Comment.ofRaw_eq_ok_iff.2 ⟨hvalue, hstart, hstop⟩⟩

/-! ## Outcomes -/

/-- A raw value describes an outcome: its root is that of the outcome, and member by member its
errors and its comments are converted to those of the outcome. -/
structure Outcome.Describes (v : Raw) (o : Outcome) : Prop where
  root : v.field? "root" = some (.text o.root)
  errorsListed : Listed (v.field? "errors")
  commentsListed : Listed (v.field? "comments")
  errors : List.Forall₂ (fun e s => e.toText = .ok s) (members (v.field? "errors")) o.errors
  comments : List.Forall₂ Comment.Describes (members (v.field? "comments")) o.comments

/-- The errors and the comments of an outcome can be read exactly if both fields can be gone through
and every member can be read. -/
lemma Outcome.partsOfRaw_eq_ok_iff {v : Raw} {errors : List String} {comments : List Comment} :
    Outcome.partsOfRaw v = .ok (errors, comments) ↔
      Listed (v.field? "errors") ∧ Listed (v.field? "comments") ∧
      (members (v.field? "errors")).mapM Raw.toText = .ok errors ∧
      (members (v.field? "comments")).mapM Comment.ofRaw = .ok comments := by
  rw [Outcome.partsOfRaw, bind_eq_ok_iff]
  constructor
  · rintro ⟨items, hitems, h⟩
    obtain ⟨hlisted, rfl⟩ := elements_eq_ok_iff.1 hitems
    obtain ⟨errors', herrors, h⟩ := bind_eq_ok_iff.1 h
    obtain ⟨raws, hraws, h⟩ := bind_eq_ok_iff.1 h
    obtain ⟨hlisted', rfl⟩ := elements_eq_ok_iff.1 hraws
    obtain ⟨comments', hcomments, h⟩ := bind_eq_ok_iff.1 h
    cases h
    exact ⟨hlisted, hlisted', herrors, hcomments⟩
  · rintro ⟨hlisted, hlisted', herrors, hcomments⟩
    refine ⟨_, elements_eq_ok_iff.2 ⟨hlisted, rfl⟩, bind_eq_ok_iff.2 ⟨_, herrors, ?_⟩⟩
    exact bind_eq_ok_iff.2
      ⟨_, elements_eq_ok_iff.2 ⟨hlisted', rfl⟩, bind_eq_ok_iff.2 ⟨_, hcomments, rfl⟩⟩

/-- A field is a text exactly if it is there and is one. -/
lemma field_eq_text_iff {field : Option Raw} {s : String} :
    field.getD .none = .text s ↔ field = some (.text s) := by
  cases field <;> simp

/-- Normalization gives a root that is a text and the parts of the value. -/
lemma Outcome.ofRaw_eq_ok_iff_parts {v : Raw} {o : Outcome} :
    Outcome.ofRaw v = .ok o ↔
      v.field? "root" = some (.text o.root) ∧
      Outcome.partsOfRaw v = .ok (o.errors, o.comments) := by
  rw [Outcome.ofRaw, ← field_eq_text_iff]
  constructor
  · intro h
    split at h
    · next root hroot =>
      split at h
      · next errors comments hparts =>
        cases h
        exact ⟨hroot, hparts⟩
      · cases h
    · cases h
  · rintro ⟨hroot, hparts⟩
    rw [hroot]
    dsimp only
    rw [hparts]

/-- An outcome is read from exactly the values that describe it. -/
lemma Outcome.ofRaw_eq_ok_iff {v : Raw} {o : Outcome} :
    Outcome.ofRaw v = .ok o ↔ Outcome.Describes v o := by
  rw [Outcome.ofRaw_eq_ok_iff_parts, Outcome.partsOfRaw_eq_ok_iff, mapM_eq_ok_iff, mapM_eq_ok_iff]
  simp only [Comment.ofRaw_eq_ok_iff]
  constructor
  · rintro ⟨hroot, hlisted, hlisted', herrors, hcomments⟩
    exact ⟨hroot, hlisted, hlisted', herrors, hcomments⟩
  · rintro ⟨hroot, hlisted, hlisted', herrors, hcomments⟩
    exact ⟨hroot, hlisted, hlisted', herrors, hcomments⟩

/-- **Normalization is exact.** A value has an outcome exactly if its root is a text, its errors and
its comments can be gone through, every error has a text, and every comment has a value with a text
and offsets that are integers, missing ones being an empty text and zero. The outcome has the root
of the value, a text for every error and a comment for every comment, in their order. -/
theorem Outcome.ofRaw_exact (v : Raw) :
    ((∃ o, Outcome.ofRaw v = .ok o) ↔
      (∃ root, v.field? "root" = some (.text root)) ∧
      Listed (v.field? "errors") ∧ Listed (v.field? "comments") ∧
      (∀ e ∈ members (v.field? "errors"), ∃ s, e.toText = .ok s) ∧
      ∀ c ∈ members (v.field? "comments"),
        (∃ s, ((c.field? "value").getD (.text "")).toText = .ok s) ∧
        (∃ n, ((c.field? "start").getD (.int 0)).toInt = .ok n) ∧
        ∃ n, ((c.field? "end").getD (.int 0)).toInt = .ok n) ∧
    ∀ o, Outcome.ofRaw v = .ok o ↔ Outcome.Describes v o := by
  refine ⟨?_, fun o => Outcome.ofRaw_eq_ok_iff⟩
  simp only [← Comment.exists_ofRaw_iff, ← exists_mapM_iff]
  constructor
  · rintro ⟨o, h⟩
    obtain ⟨hroot, hparts⟩ := Outcome.ofRaw_eq_ok_iff_parts.1 h
    obtain ⟨hlisted, hlisted', herrors, hcomments⟩ := Outcome.partsOfRaw_eq_ok_iff.1 hparts
    exact ⟨⟨_, hroot⟩, hlisted, hlisted', ⟨_, herrors⟩, _, hcomments⟩
  · rintro ⟨⟨root, hroot⟩, hlisted, hlisted', ⟨errors, herrors⟩, comments, hcomments⟩
    exact ⟨⟨root, errors, comments⟩, Outcome.ofRaw_eq_ok_iff_parts.2
      ⟨hroot, Outcome.partsOfRaw_eq_ok_iff.2 ⟨hlisted, hlisted', herrors, hcomments⟩⟩⟩

/-! ## Records and objects -/

/-- **A record and an object with the same fields** are read alike. -/
lemma Raw.field?_record (attributes : List (String × Raw)) (name : String) :
    (Raw.record (attributes.map fun a => (.text a.1, a.2))).field? name =
      (Raw.object attributes).field? name := by
  rw [field?, field?]
  induction attributes with
  | nil => rfl
  | cons a rest ih =>
    rw [List.map_cons, List.find?_cons, List.lookup_cons]
    by_cases h : a.1 = name
    · simp [Key.isText, h]
    · simp only [Key.isText, beq_false_of_ne h, beq_false_of_ne (Ne.symm h)]
      exact ih

/-- Two comments with the same fields, however they are represented. -/
def Comment.Alike (c d : Raw) : Prop :=
  ∀ name ∈ ["value", "start", "end"], c.field? name = d.field? name

/-- Two fields that hold the same value, or lists of comments with the same fields. -/
inductive AlikeComments : Option Raw → Option Raw → Prop
  | same (field : Option Raw) : AlikeComments field field
  | lists {cs ds : List Raw} (h : List.Forall₂ Comment.Alike cs ds) :
    AlikeComments (some (.list cs)) (some (.list ds))

/-- Two raw values with the same fields, however they and their comments are represented. -/
structure Outcome.Alike (v w : Raw) : Prop where
  root : v.field? "root" = w.field? "root"
  errors : v.field? "errors" = w.field? "errors"
  comments : AlikeComments (v.field? "comments") (w.field? "comments")

/-- A record and an object with the same fields are alike as comments. -/
lemma Comment.alike_record (attributes : List (String × Raw)) :
    Comment.Alike (.record (attributes.map fun a => (.text a.1, a.2))) (.object attributes) :=
  fun name _ => Raw.field?_record attributes name

/-- Comments with the same fields are read alike. -/
lemma Comment.ofRaw_of_alike {c d : Raw} (h : Comment.Alike c d) :
    Comment.ofRaw c = Comment.ofRaw d := by
  rw [Comment.ofRaw, Comment.ofRaw, h "value" (by simp), h "start" (by simp), h "end" (by simp)]

/-- Errors and comments of values with the same fields are read alike. -/
lemma Outcome.partsOfRaw_of_alike {v w : Raw} (h : Outcome.Alike v w) :
    Outcome.partsOfRaw v = Outcome.partsOfRaw w := by
  obtain ⟨-, herrors, hcomments⟩ := h
  rw [Outcome.partsOfRaw, Outcome.partsOfRaw, herrors]
  generalize v.field? "comments" = field, w.field? "comments" = field' at hcomments
  cases hcomments with
  | same => rfl
  | @lists cs ds h =>
    have hcs : cs.mapM Comment.ofRaw = ds.mapM Comment.ofRaw :=
      mapM_congr (h.imp fun c d hcd => Comment.ofRaw_of_alike hcd)
    simp only [Option.getD_some, Raw.elements]
    -- a list is gone through without a fault, so that only its members are left to convert
    change (_ >>= fun _ => _ >>= fun _ => cs.mapM Comment.ofRaw >>= _) =
      (_ >>= fun _ => _ >>= fun _ => ds.mapM Comment.ofRaw >>= _)
    rw [hcs]

/-- **Values with the same fields are normalized alike**: to the same outcome, or with the same
fault. -/
lemma Outcome.ofRaw_of_alike {v w : Raw} (h : Outcome.Alike v w) :
    Outcome.ofRaw v = Outcome.ofRaw w := by
  rw [Outcome.ofRaw, Outcome.ofRaw, h.root, Outcome.partsOfRaw_of_alike h]

/-- What is answered with a value does not depend on the mode in which it was asked for. -/
lemma Reply.outcome_value (mode mode' : CallMode) (v : Raw) :
    (Reply.value v).outcome mode = (Reply.value v).outcome mode' := rfl

end Binding

/-! ## Answers -/

namespace Parser

open Binding

section Answers

variable {p : Parser} {reply : Nat → String → Reply} {v : Raw} {source : String} {j : Journal}

/-- A value that a function returns is the answer. -/
lemma answer_function (h : p.binding.blocking = .function reply)
    (hreply : reply (j.callCount .blocking) source = .value v) :
    p.answer .blocking source j = .value v := by
  rw [answer, call, entry, h]
  exact hreply

/-- A value that a coroutine returns is the answer once it has been awaited. -/
lemma answer_coroutine (h : p.binding.deferred = .coroutine reply)
    (hreply : reply (j.callCount .deferred) source = .value v) :
    p.answer .deferred source j = .value v := by
  rw [answer, call, entry, h]
  exact congrArg awaited hreply

end Answers

/-- **How an answer is represented does not matter**, nor in which mode it was asked for. If two
values have the same fields, they are normalized to the same outcome or with the same fault, and two
parsers that answer with them end in the same way: with the same outcome, or for the same reason. -/
theorem parse_representation {v w : Raw} (h : Outcome.Alike v w) :
    Outcome.ofRaw v = Outcome.ofRaw w ∧
    ∀ (p q : Parser) (mode mode' : CallMode) (source source' : String) (j j' : Journal),
      p.answer mode source j = .value v → q.answer mode' source' j' = .value w →
        (p.parse mode source j).1 = (q.parse mode' source' j').1 := by
  refine ⟨Outcome.ofRaw_of_alike h, fun p q mode mode' source source' j j' hp hq => ?_⟩
  rw [parse_eq, parse_eq, hp, hq]
  change (Reply.value v).outcome mode = (Reply.value w).outcome mode'
  rw [Reply.outcome_value mode mode', Reply.outcome, Reply.outcome, Outcome.ofRaw_of_alike h]

/-- A parser that always answers with a value. -/
def answering (v : Raw) : Parser where
  binding := ⟨"m", .function fun _ _ => .value v, .coroutine fun _ _ => .value v⟩
  complete := by rfl

/-- The fields of a comment whose beginning is no number. -/
def sampleComment : List (String × Raw) := [("value", .none), ("start", .text "x")]

/-- A result with two comments, the second of which starts nowhere. -/
def recordResult : Raw :=
  .record [("root", .text "{}"), ("comments", .list [.object [],
    .record (sampleComment.map fun a => (.text a.1, a.2))])]

/-- The same result, its fields in another order and represented by objects. -/
def objectResult : Raw :=
  .object [("comments", .list [.object [], .object sampleComment]), ("root", .text "{}")]

/-- Both representations end in the same parse failure, one at once and one awaited. -/
theorem parse_representation_mixed :
    Outcome.Alike recordResult objectResult ∧
      ∃ failure : ParseFailure,
        ((answering recordResult).parse .blocking "x" .empty).1 = .error (.failure failure) ∧
        ((answering objectResult).parse .deferred "y" .empty).1 = .error (.failure failure) ∧
        failure.message = "parser returned malformed errors or comments: " ++
          "invalid literal for int() with base 10: 'x'" := by
  have halike : Outcome.Alike recordResult objectResult :=
    ⟨rfl, rfl, .lists (.cons (fun _ _ => rfl) (.cons (Comment.alike_record sampleComment) .nil))⟩
  have hblocking : (answering recordResult).answer .blocking "x" .empty = .value recordResult :=
    answer_function rfl rfl
  have hdeferred : (answering objectResult).answer .deferred "y" .empty = .value objectResult :=
    answer_coroutine rfl rfl
  have hends : ((answering objectResult).parse .deferred "y" .empty).1 =
      .error (.failure (.malformed (.integer (.malformed 10 (.ofString "x"))))) := by
    rfl
  have hsame := (parse_representation halike).2 _ _ .blocking .deferred "x" "y" .empty .empty
    hblocking hdeferred
  exact ⟨halike, _, hsame.trans hends, hends, by decide⟩

end Parser

end ParseBench
