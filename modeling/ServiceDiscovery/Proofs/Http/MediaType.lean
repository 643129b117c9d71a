import Mathlib.Data.List.TakeWhile
import ServiceDiscovery.Http.MediaType
import ServiceDiscovery.Proofs.Http.Charset

namespace ServiceDiscovery.Http.MediaType

open Text

def Token (text : List Char) : Prop := ∀ c ∈ text, isTokenChar c = true

def Spaces (text : List Char) : Prop := ∀ c ∈ text, c = ' '

-- A value as it is written, and what it stands for. Between quotes the first character may be
-- another quote, and spaces may follow the last one.
inductive Value : List Char → List Char → Prop where
  | token {value : List Char} (token : Token value) : Value value value
  | quoted (first : Char) (more : List Char) {spaces : List Char}
      (legal : ∀ c ∈ first :: more, isQuotedChar c = true) (unended : '"' ∉ more)
      (blank : Spaces spaces) : Value ('"' :: first :: more ++ '"' :: spaces) (first :: more)

-- The parameters after a semicolon. Only the last may be without a value.
inductive Parameters : List Char → List Parameter → Prop where
  | none {spaces : List Char} (blank : Spaces spaces) : Parameters spaces []
  | last {spaces name text value : List Char} (blank : Spaces spaces) (some_name : name ≠ [])
      (token : Token name) (written : Value text value) :
      Parameters (spaces ++ name ++ '=' :: text) [(name, value)]
  | more {spaces name text value rest : List Char} {others : List Parameter}
      (blank : Spaces spaces) (some_name : name ≠ []) (token : Token name)
      (written : Value text value) (some_value : text ≠ []) (follow : Parameters rest others) :
      Parameters (spaces ++ name ++ '=' :: text ++ ';' :: rest) ((name, value) :: others)

-- A type and a subtype, which is missed only where parameters follow.
inductive ContentType : List Char → List Parameter → Prop where
  | plain {type subtype : List Char} (some_type : type ≠ []) (tokens : Token type ∧ Token subtype) :
      ContentType (type ++ '/' :: subtype) []
  | more {type subtype rest : List Char} {parameters : List Parameter} (some_type : type ≠ [])
      (some_subtype : subtype ≠ []) (tokens : Token type ∧ Token subtype)
      (follow : Parameters rest parameters) :
      ContentType (type ++ '/' :: subtype ++ ';' :: rest) parameters

theorem no_spaces : Spaces [] := List.forall_mem_nil _

theorem token_append {text : List Char} {c : Char} (token : Token text)
    (last : isTokenChar c = true) : Token (text ++ [c]) := by
  intro other inside
  rcases List.mem_append.1 inside with inside | same
  · exact token other inside
  · rw [List.mem_singleton.1 same]
    exact last

theorem spaces_append {text : List Char} (blank : Spaces text) : Spaces (text ++ [' ']) := by
  intro c inside
  rcases List.mem_append.1 inside with inside | same
  · exact blank c inside
  · exact List.mem_singleton.1 same

-- What a reader at a place has read since the last semicolon.
inductive Read : Place → List Char → Prop where
  | before {spaces : List Char} (blank : Spaces spaces) : Read .before spaces
  | name {spaces name : List Char} (blank : Spaces spaces) (some_name : name ≠ [])
      (token : Token name) : Read (.name name) (spaces ++ name)
  | value {spaces name value : List Char} (blank : Spaces spaces) (some_name : name ≠ [])
      (token : Token name) (plain : Token value) :
      Read (.value name value) (spaces ++ name ++ '=' :: value)
  | opened {spaces name : List Char} (blank : Spaces spaces) (some_name : name ≠ [])
      (token : Token name) : Read (.quoted name []) (spaces ++ name ++ ['=', '"'])
  | quoted {spaces name : List Char} (first : Char) (more : List Char) (blank : Spaces spaces)
      (some_name : name ≠ []) (token : Token name)
      (legal : ∀ c ∈ first :: more, isQuotedChar c = true) (unended : '"' ∉ more) :
      Read (.quoted name (first :: more)) (spaces ++ name ++ '=' :: '"' :: first :: more)
  | behind {spaces name value text : List Char} (blank : Spaces spaces) (some_name : name ≠ [])
      (token : Token name) (some_value : text ≠ [])
      (written : ∀ spaces, Spaces spaces → Value (text ++ spaces) value) :
      Read (.behind name value) (spaces ++ name ++ '=' :: text)

structure Written (text : List Char) (name value : List Char) : Prop where
  split : ∃ spaces written, text = spaces ++ name ++ '=' :: written ∧ Spaces spaces ∧
    Value written value ∧ written ≠ []
  some_name : name ≠ []
  token : Token name

theorem read_step {place : Place} {text : List Char} {c : Char} {rest : List Char}
    {parameters : List Parameter} (read : Read place text)
    (legal : parameters? place (c :: rest) = some parameters) :
    (∃ next, Read next (text ++ [c]) ∧ parameters? next rest = some parameters) ∨
      c = ';' ∧ ∃ name value others, Written text name value ∧
        parameters? .before rest = some others ∧ (name, value) :: others = parameters := by
  cases read with
  | before blank =>
      rw [parameters?] at legal
      split at legal
      · rename_i space
        subst space
        exact .inl ⟨_, .before (spaces_append blank), legal⟩
      · split at legal
        · rename_i token
          exact .inl ⟨_, .name blank (List.cons_ne_nil c []) (by simpa [Token]), legal⟩
        · cases legal
  | name blank some_name token =>
      rw [parameters?] at legal
      split at legal
      · rename_i last
        rw [List.append_assoc]
        exact .inl ⟨_, .name blank (by simp) (token_append token last), legal⟩
      · split at legal
        · rename_i equals
          subst equals
          exact .inl ⟨_, .value blank some_name token (List.forall_mem_nil _), legal⟩
        · cases legal
  | @value spaces name value blank some_name token plain =>
      rw [parameters?] at legal
      split at legal
      · rename_i opening
        obtain ⟨rfl, rfl⟩ := opening
        rw [List.append_assoc]
        exact .inl ⟨_, .opened blank some_name token, legal⟩
      · split at legal
        · rename_i last
          rw [List.append_assoc]
          exact .inl ⟨_, .value blank some_name token (token_append plain last), legal⟩
        · split at legal
          · rename_i ending
            obtain ⟨rfl, some_value⟩ := ending
            obtain ⟨others, follow, rfl⟩ := Option.map_eq_some_iff.1 legal
            exact .inr ⟨rfl, name, value, others,
              ⟨⟨spaces, value, rfl, blank, .token plain, some_value⟩, some_name, token⟩, follow,
              rfl⟩
          · cases legal
  | opened blank some_name token =>
      rw [parameters?, if_neg fun ending => ending.2 rfl] at legal
      split at legal
      · rename_i quotable
        rw [List.append_assoc]
        exact .inl ⟨_, .quoted c [] blank some_name token (by simpa) (by simp), legal⟩
      · cases legal
  | quoted first more blank some_name token quotable unended =>
      rw [parameters?] at legal
      split at legal
      · rename_i ending
        obtain ⟨rfl, _⟩ := ending
        rw [List.append_assoc]
        refine .inl ⟨_, .behind blank some_name token (List.cons_ne_nil _ _) ?_, legal⟩
        intro spaces after
        simpa using Value.quoted first more quotable unended after
      · rename_i going
        split at legal
        · rename_i last
          rw [List.append_assoc]
          refine .inl ⟨_, .quoted first (more ++ [c]) blank some_name token ?_ ?_, legal⟩
          · simpa [or_imp, forall_and, last] using quotable
          · rintro inside
            rcases List.mem_append.1 inside with inside | same
            · exact unended inside
            · exact going ⟨(List.mem_singleton.1 same).symm, List.cons_ne_nil _ _⟩
        · cases legal
  | @behind spaces name value text blank some_name token some_value written =>
      rw [parameters?] at legal
      split at legal
      · rename_i ending
        obtain ⟨others, follow, rfl⟩ := Option.map_eq_some_iff.1 legal
        have whole := written [] no_spaces
        rw [List.append_nil] at whole
        exact .inr ⟨ending, name, value, others,
          ⟨⟨spaces, text, rfl, blank, whole, some_value⟩, some_name, token⟩, follow, rfl⟩
      · split at legal
        · rename_i space
          subst space
          rw [List.append_assoc]
          refine .inl ⟨_, .behind blank some_name token (by simp) ?_, legal⟩
          intro spaces after
          have further := written (' ' :: spaces) (by simpa [Spaces] using after)
          simpa using further
        · cases legal

theorem read_end {place : Place} {text : List Char} {parameters : List Parameter}
    (read : Read place text) (legal : parameters? place [] = some parameters) :
    Parameters text parameters := by
  cases read with
  | before blank =>
      cases legal
      exact .none blank
  | name blank some_name token => cases legal
  | value blank some_name token plain =>
      cases legal
      exact .last blank some_name token (.token plain)
  | opened blank some_name token => cases legal
  | quoted first more blank some_name token quotable unended => cases legal
  | behind blank some_name token some_value written =>
      cases legal
      have whole := written [] no_spaces
      rw [List.append_nil] at whole
      exact .last blank some_name token whole

theorem parameters_of_read (rest : List Char) {place : Place} {text : List Char}
    {parameters : List Parameter} (read : Read place text)
    (legal : parameters? place rest = some parameters) : Parameters (text ++ rest) parameters := by
  induction rest generalizing place text parameters with
  | nil =>
      rw [List.append_nil]
      exact read_end read legal
  | cons c rest ih =>
      rcases read_step read legal with ⟨next, further, goes_on⟩ |
        ⟨rfl, name, value, others, ended, follow, rfl⟩
      · have whole := ih further goes_on
        rw [List.append_assoc] at whole
        exact whole
      · obtain ⟨⟨spaces, written, rfl, blank, value, some_value⟩, some_name, token⟩ := ended
        have after := ih (.before no_spaces) follow
        exact .more blank some_name token value some_value after

theorem parameters_spaces {spaces : List Char} (blank : Spaces spaces) (rest : List Char) :
    parameters? .before (spaces ++ rest) = parameters? .before rest := by
  induction spaces with
  | nil => rfl
  | cons c spaces ih =>
      obtain ⟨space, others⟩ := List.forall_mem_cons.1 blank
      rw [List.cons_append, parameters?, if_pos space, ih others]

theorem parameters_name (read : List Char) {name : List Char} (token : Token name)
    (rest : List Char) :
    parameters? (.name read) (name ++ '=' :: rest) =
      parameters? (.value (read ++ name) []) rest := by
  induction name generalizing read with
  | nil =>
      rw [List.nil_append, List.append_nil, parameters?, if_neg (by decide), if_pos rfl]
  | cons c name ih =>
      obtain ⟨first, others⟩ := List.forall_mem_cons.1 token
      rw [List.cons_append, parameters?, if_pos first, ih (read ++ [c]) others, List.append_assoc]
      rfl

theorem not_quote_of_token {c : Char} (token : isTokenChar c = true) : c ≠ '"' := by
  rintro rfl
  exact absurd token (by decide)

theorem parameters_token (name read : List Char) {value : List Char} (token : Token value)
    (rest : List Char) :
    parameters? (.value name read) (value ++ rest) =
      parameters? (.value name (read ++ value)) rest := by
  induction value generalizing read with
  | nil => rw [List.nil_append, List.append_nil]
  | cons c value ih =>
      obtain ⟨first, others⟩ := List.forall_mem_cons.1 token
      rw [List.cons_append, parameters?, if_neg fun opening => not_quote_of_token first opening.1,
        if_pos first, ih (read ++ [c]) others, List.append_assoc]
      rfl

theorem parameters_quoted (name read : List Char) {value : List Char} (some_read : read ≠ [])
    (quotable : ∀ c ∈ value, isQuotedChar c = true) (unended : '"' ∉ value) (rest : List Char) :
    parameters? (.quoted name read) (value ++ '"' :: rest) =
      parameters? (.behind name (read ++ value)) rest := by
  induction value generalizing read with
  | nil => rw [List.nil_append, List.append_nil, parameters?, if_pos ⟨rfl, some_read⟩]
  | cons c value ih =>
      obtain ⟨first, others⟩ := List.forall_mem_cons.1 quotable
      rw [List.mem_cons, not_or] at unended
      obtain ⟨differs, absent⟩ := unended
      rw [List.cons_append, parameters?, if_neg fun ending => differs ending.1.symm, if_pos first,
        ih (read ++ [c]) (by simp) others absent, List.append_assoc]
      rfl

theorem parameters_behind (name value : List Char) {spaces : List Char} (blank : Spaces spaces)
    (rest : List Char) :
    parameters? (.behind name value) (spaces ++ rest) = parameters? (.behind name value) rest := by
  induction spaces with
  | nil => rfl
  | cons c spaces ih =>
      obtain ⟨space, others⟩ := List.forall_mem_cons.1 blank
      subst space
      rw [List.cons_append, parameters?, if_neg (by decide), if_pos rfl, ih others]

theorem parameters_start {spaces name : List Char} (blank : Spaces spaces) (some_name : name ≠ [])
    (token : Token name) (rest : List Char) :
    parameters? .before (spaces ++ name ++ '=' :: rest) = parameters? (.value name []) rest := by
  obtain ⟨c, name, rfl⟩ := List.exists_cons_of_ne_nil some_name
  obtain ⟨first, others⟩ := List.forall_mem_cons.1 token
  have visible : c ≠ ' ' := by
    rintro rfl
    exact absurd first (by decide)
  rw [List.append_assoc, parameters_spaces blank, List.cons_append, parameters?, if_neg visible,
    if_pos first, parameters_name [c] others]
  rfl

theorem parameters_value (name : List Char) {text value : List Char} (written : Value text value) :
    parameters? (.value name []) text = some [(name, value)] ∧
      (text ≠ [] → ∀ rest, parameters? (.value name []) (text ++ ';' :: rest) =
        (parameters? .before rest).map ((name, value) :: ·)) := by
  cases written with
  | token plain =>
      refine ⟨?_, fun some_value rest => ?_⟩
      · rw [← List.append_nil text, parameters_token name [] plain]
        simp
      · rw [parameters_token name [] plain, List.nil_append, parameters?, if_neg (by simp),
          if_neg (by decide), if_pos ⟨rfl, some_value⟩]
  | @quoted first more spaces quotable unended blank =>
      obtain ⟨legal, others⟩ := List.forall_mem_cons.1 quotable
      have behind (rest : List Char) :
          parameters? (.value name []) ('"' :: first :: more ++ '"' :: spaces ++ rest) =
            parameters? (.behind name (first :: more)) rest := by
        rw [List.cons_append, List.cons_append, List.cons_append, List.cons_append,
          List.append_assoc, parameters?, if_pos ⟨rfl, rfl⟩, parameters?, if_neg (by simp),
          if_pos legal, List.nil_append, List.cons_append,
          parameters_quoted name [first] (List.cons_ne_nil _ _) others unended,
          parameters_behind _ _ blank]
        rfl
      refine ⟨?_, fun _ rest => ?_⟩
      · have ended := behind []
        rw [List.append_nil] at ended
        rw [ended]
        rfl
      · rw [behind, parameters?, if_pos rfl]

theorem parameters_read {text : List Char} {parameters : List Parameter}
    (written : Parameters text parameters) : parameters? .before text = some parameters := by
  induction written with
  | none blank =>
      rename_i spaces
      rw [← List.append_nil spaces, parameters_spaces blank]
      rfl
  | last blank some_name token written =>
      rw [parameters_start blank some_name token]
      exact (parameters_value _ written).1
  | more blank some_name token written some_value follow ih =>
      rw [List.append_assoc, List.cons_append, parameters_start blank some_name token,
        (parameters_value _ written).2 some_value, ih]
      rfl

theorem parameters_iff (text : List Char) (parameters : List Parameter) :
    Parameters text parameters ↔ parameters? .before text = some parameters :=
  ⟨parameters_read, parameters_of_read text (.before no_spaces)⟩

section

variable {token rest : List Char} (legal : Token token)
  (ends : ∀ c ∈ rest.head?, isTokenChar c = false)

include legal ends

theorem token_front : (token ++ rest).takeWhile isTokenChar = token :=
  take_while_until token rest legal ends

theorem token_behind :
    (token ++ rest).drop ((token ++ rest).takeWhile isTokenChar).length = rest := by
  rw [token_front legal ends, List.drop_left]

end

theorem token_split (text : List Char) :
    ∃ token rest, text = token ++ rest ∧ Token token ∧
      ∀ c ∈ rest.head?, isTokenChar c = false := by
  refine ⟨text.takeWhile isTokenChar, text.dropWhile isTokenChar,
    List.takeWhile_append_dropWhile.symm, fun c inside => List.mem_takeWhile_imp inside,
    fun c first => ?_⟩
  have foreign := List.head?_dropWhile_not isTokenChar text
  rw [first] at foreign
  exact foreign

theorem read_type {type text : List Char} (token : Token type) :
    read? (type ++ '/' :: text) =
      match text.drop (text.takeWhile isTokenChar).length with
      | [] => if type = [] then none else some []
      | ';' :: rest =>
          if type = [] ∨ text.takeWhile isTokenChar = [] then none else parameters? .before rest
      | _ => none := by
  have slash : ∀ c ∈ ('/' :: text).head?, isTokenChar c = false := by simp; decide
  simp only [read?]
  rw [token_behind token slash, token_front token slash]
  rfl

theorem read_content_type {text : List Char} {parameters : List Parameter}
    (written : ContentType text parameters) : read? text = some parameters := by
  cases written with
  | @plain type subtype some_type tokens =>
      have nothing : ∀ c ∈ ([] : List Char).head?, isTokenChar c = false := by simp
      have behind := token_behind tokens.2 nothing
      rw [List.append_nil] at behind
      rw [read_type tokens.1, behind]
      exact if_neg some_type
  | @more type subtype rest _ some_type some_subtype tokens follow =>
      have semicolon : ∀ c ∈ (';' :: rest).head?, isTokenChar c = false := by simp; decide
      rw [List.append_assoc, List.cons_append, read_type tokens.1, token_behind tokens.2 semicolon,
        token_front tokens.2 semicolon]
      exact (if_neg (not_or.2 ⟨some_type, some_subtype⟩)).trans (parameters_read follow)

theorem content_type_iff (text : List Char) (parameters : List Parameter) :
    ContentType text parameters ↔ read? text = some parameters := by
  refine ⟨read_content_type, fun legal => ?_⟩
  obtain ⟨type, behind, rfl, token, ends⟩ := token_split text
  have slashed : ∃ text, behind = '/' :: text := by
    simp only [read?] at legal
    rw [token_behind token ends] at legal
    split at legal
    · exact ⟨_, rfl⟩
    · cases legal
  obtain ⟨text, rfl⟩ := slashed
  rw [read_type token] at legal
  obtain ⟨subtype, behind, rfl, subtoken, ends⟩ := token_split text
  rw [token_behind subtoken ends, token_front subtoken ends] at legal
  split at legal
  · rw [List.append_nil]
    split at legal
    · cases legal
    · rename_i some_type
      cases legal
      exact .plain some_type ⟨token, subtoken⟩
  · split at legal
    · cases legal
    · rename_i some_parts
      obtain ⟨some_type, some_subtype⟩ := not_or.1 some_parts
      have whole := ContentType.more some_type some_subtype ⟨token, subtoken⟩
        ((parameters_iff _ parameters).2 legal)
      rw [List.append_assoc] at whole
      exact whole
  · cases legal

end ServiceDiscovery.Http.MediaType
