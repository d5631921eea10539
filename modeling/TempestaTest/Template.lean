import TempestaTest.Method
import TempestaTest.Str

/-! `fill_template` of `framework/templates.py`: the configuration values
`tf_cfg.cfg.kvs`, copied and updated by `extra_kvs` when it is given, fill a
template through Python 2's `string.Template(template).substitute(kvs)`.
`substitute` replaces, left to right, each match of `Template.pattern`: `$$`
by `$`, and `$name` or `${name}` by the value of `name`, a name being
`[_a-z][_a-z0-9]*` read case-insensitively and as long as it goes; a `$` that
starts none of these matches the group `invalid`, whose conversion raises
`ValueError` with the line and column `Template._invalid` reckons from the
text before it. A name missing from the mapping raises `KeyError`. The scan is a machine that reads one character at
a time; the conversions run in the order of the matches, so the first that
raises decides the exception, and the scan stops at the first `invalid`.

Proved: a template written as literal text, each `$` doubled, and
placeholders whose names are identifiers, a `$name` not followed by a
character that would continue the name, fills to the literal text with each
name replaced by its value from `extra_kvs`, or else from the configuration,
and raises `KeyError` for the first name found in neither. Every template is
such a template, possibly followed by a `$` that starts no placeholder, where
`fill_template` raises `ValueError` unless a name before it is missing. -/

namespace TempestaTest.Template

open Str

/-- The exceptions of `Template.substitute`. -/
inductive Exc
  /-- `KeyError(name)`: the mapping has no value for the name of a placeholder. -/
  | keyError (name : Bytes)
  /-- `ValueError` with its message. -/
  | valueError (msg : Bytes)
  deriving DecidableEq, Repr

/-! ### Dicts -/

/-- `d[key]` of the dict with the items `d`, the first item of a key being
the one that counts. -/
def getItem : List (Bytes × Bytes) → Bytes → Option Bytes
  | [], _ => none
  | (k, v) :: d, key => if k = key then some v else getItem d key

/-- `d.update(extra)` as lookups see it: the items of `extra` come first. -/
def update (d extra : List (Bytes × Bytes)) : List (Bytes × Bytes) := extra ++ d

theorem getItem_append (d d' : List (Bytes × Bytes)) (key : Bytes) :
    getItem (d ++ d') key = (getItem d key).or (getItem d' key) := by
  induction d with
  | nil => rfl
  | cons kv d ih =>
    obtain ⟨k, v⟩ := kv
    by_cases h : k = key <;> simp [getItem, h, ih]

/-! ### `Template.pattern` -/

/-- `[_a-z]` of `Template.idpattern` under `re.IGNORECASE`. -/
def isIdStart (c : Char) : Bool := c = '_' || c.isAlpha

/-- `[_a-z0-9]`. -/
def isIdChar (c : Char) : Bool := isIdStart c || c.isDigit

/-- A match of `Template.pattern`, by the group it matched, or a character
between two matches. -/
inductive Piece
  | char (c : Char)
  | escaped
  | named (name : Bytes)
  | braced (name : Bytes)
  | invalid
  deriving DecidableEq, Repr

/-- The text of the template a piece covers. -/
def Piece.source : Piece → Bytes
  | .char c => [c]
  | .escaped => ['$', '$']
  | .named name => '$' :: name
  | .braced name => '$' :: '{' :: name ++ ['}']
  | .invalid => ['$']

/-- Where the scan stands: between matches, after a `$`, in `$name`, after
`${`, or in `${name`. -/
inductive Mode
  | text
  | dollar
  | named (name : Bytes)
  | brace
  | braced (name : Bytes)

/-- The pieces of the rest of the template, up to the first `invalid` match,
whose conversion raises whatever the mapping. -/
def scan : Mode → Bytes → List Piece
  | .text, [] => []
  | .text, c :: s => if c = '$' then scan .dollar s else .char c :: scan .text s
  | .dollar, [] => [.invalid]
  | .dollar, c :: s =>
    if c = '$' then .escaped :: scan .text s
    else if isIdStart c then scan (.named [c]) s
    else if c = '{' then scan .brace s
    else [.invalid]
  | .named name, [] => [.named name]
  | .named name, c :: s =>
    if isIdChar c then scan (.named (name ++ [c])) s
    else .named name :: if c = '$' then scan .dollar s else .char c :: scan .text s
  | .brace, [] => [.invalid]
  | .brace, c :: s => if isIdStart c then scan (.braced [c]) s else [.invalid]
  | .braced _, [] => [.invalid]
  | .braced name, c :: s =>
    if c = '}' then .braced name :: scan .text s
    else if isIdChar c then scan (.braced (name ++ [c])) s
    else [.invalid]

/-! ### `Template.substitute` -/

/-- `s.splitlines(True)` of a Python 2 `str`, a byte string, whose lines end
at `\n`, `\r` or `\r\n`; `line` is the text of the line being read. -/
def splitlinesFrom (line : Bytes) : Bytes → List Bytes
  | [] => if line = [] then [] else [line]
  | '\r' :: '\n' :: s => (line ++ ['\r', '\n']) :: splitlinesFrom [] s
  | c :: s =>
    if c = '\n' ∨ c = '\r' then (line ++ [c]) :: splitlinesFrom [] s else splitlinesFrom (line ++ [c]) s

/-- `s.splitlines(True)` of a Python 2 `str`. -/
def splitlines (s : Bytes) : List Bytes := splitlinesFrom [] s

/-- `Template._invalid` for the match that ends the text `upTo`, which is
`self.template[:i]` with `i = mo.start('invalid')`, just after the `$`. -/
def invalidMessage (upTo : Bytes) : Bytes :=
  let lines := splitlines upTo
  let lineno : ℕ := if lines = [] then 1 else lines.length
  let colno : ℕ := if lines = [] then 1 else upTo.length - lines.dropLast.flatten.length
  "Invalid placeholder in string: line ".toList ++ formatInt lineno ++ ", col ".toList ++ formatInt colno

/-- `convert(mo)` of `Template.substitute` for the piece `p` after the text
`before`; a character between matches is kept. -/
def convert (mapping : List (Bytes × Bytes)) (before : Bytes) : Piece → Except Exc Bytes
  | .char c => pure [c]
  | .escaped => pure ['$']
  | .named name | .braced name =>
    match getItem mapping name with
    | some val => pure val
    | none => throw (.keyError name)
  | .invalid => throw (.valueError (invalidMessage (before ++ ['$'])))

/-- `pattern.sub(convert, template)` over the pieces after the text `before`. -/
def subPieces (mapping : List (Bytes × Bytes)) : Bytes → List Piece → Except Exc Bytes
  | _, [] => pure []
  | before, p :: ps => do
    let out ← convert mapping before p
    let rest ← subPieces mapping (before ++ p.source) ps
    pure (out ++ rest)

/-- `Template(template).substitute(mapping)`. -/
def substitute (template : Bytes) (mapping : List (Bytes × Bytes)) : Except Exc Bytes :=
  subPieces mapping [] (scan .text template)

/-- `fill_template(template, extra_kvs)`, `kvs` being `tf_cfg.cfg.kvs`; the
update is made on a copy, so `tf_cfg.cfg.kvs` stays as it was. -/
def fillTemplate (kvs : List (Bytes × Bytes)) (template : Bytes) (extraKvs : Option (List (Bytes × Bytes))) :
    Except Exc Bytes :=
  substitute template (match extraKvs with | some extra => update kvs extra | none => kvs)

example : fillTemplate [("server_ip".toList, "10.0.0.2".toList)] "server ${server_ip}:8000;".toList none =
    .ok "server 10.0.0.2:8000;".toList := rfl

example : fillTemplate [] "map $$http_upgrade $$connection_upgrade".toList none =
    .ok "map $http_upgrade $connection_upgrade".toList := rfl

example : fillTemplate [] "a\nb $ c".toList none =
    .error (.valueError "Invalid placeholder in string: line 2, col 3".toList) := rfl

/-! ### The scan, mode by mode -/

@[simp] theorem isIdStart_dollar : isIdStart '$' = false := rfl

@[simp] theorem isIdChar_dollar : isIdChar '$' = false := rfl

@[simp] theorem isIdStart_lbrace : isIdStart '{' = false := rfl

@[simp] theorem isIdChar_rbrace : isIdChar '}' = false := rfl

theorem ne_dollar_of_isIdStart {c : Char} (h : isIdStart c = true) : c ≠ '$' := by
  rintro rfl
  exact absurd h (by decide)

theorem scan_text_cons (c : Char) (s : Bytes) :
    scan .text (c :: s) = if c = '$' then scan .dollar s else .char c :: scan .text s := rfl

/-- A name goes on over the characters `cs` that continue it. -/
theorem scan_named_append {cs : Bytes} (rest : Bytes) (h : ∀ d ∈ cs, isIdChar d = true) :
    ∀ name, scan (.named name) (cs ++ rest) = scan (.named (name ++ cs)) rest := by
  induction cs with
  | nil => simp
  | cons d cs ih =>
    intro name
    rw [List.cons_append, scan, if_pos (h d (List.mem_cons_self _ _)),
      ih fun e he => h e (List.mem_cons_of_mem _ he), List.append_assoc, List.singleton_append]

theorem scan_braced_append {cs : Bytes} (rest : Bytes) (h : ∀ d ∈ cs, isIdChar d = true) :
    ∀ name, scan (.braced name) (cs ++ rest) = scan (.braced (name ++ cs)) rest := by
  induction cs with
  | nil => simp
  | cons d cs ih =>
    intro name
    have hd : d ≠ '}' := by rintro rfl; simpa using h _ (List.mem_cons_self _ _)
    rw [List.cons_append, scan, if_neg hd, if_pos (h d (List.mem_cons_self _ _)),
      ih fun e he => h e (List.mem_cons_of_mem _ he), List.append_assoc, List.singleton_append]

theorem scan_named_cons (name : Bytes) (c : Char) (s : Bytes) :
    scan (.named name) (c :: s) = if isIdChar c then scan (.named (name ++ [c])) s
      else .named name :: if c = '$' then scan .dollar s else .char c :: scan .text s := rfl

/-- A `$name` ends before a character that cannot continue it. -/
theorem scan_named_end (name : Bytes) {rest : Bytes} (h : ∀ c ∈ rest.head?, isIdChar c = false) :
    scan (.named name) rest = .named name :: scan .text rest := by
  cases rest with
  | nil => rfl
  | cons c s =>
    rw [scan_named_cons, if_neg (by simp [h c rfl])]
    rfl

/-! ### Templates as their authors write them -/

/-- A part of a template as its author writes it: literal text, or a
placeholder `$name`, or `${name}` where `braced`. -/
inductive Part
  | text (s : Bytes)
  | var (name : Bytes) (braced : Bool)
  deriving DecidableEq, Repr

/-- Literal text in a template: each `$` doubled. -/
def escape (s : Bytes) : Bytes := s.flatMap fun c => if c = '$' then ['$', '$'] else [c]

/-- The template text of a part. -/
def Part.print : Part → Bytes
  | .text s => escape s
  | .var name false => '$' :: name
  | .var name true => '$' :: '{' :: name ++ ['}']

/-- The template text of the parts. -/
def print (parts : List Part) : Bytes := (parts.map Part.print).flatten

@[simp] theorem print_nil : print [] = [] := rfl

@[simp] theorem print_cons (p : Part) (parts : List Part) : print (p :: parts) = p.print ++ print parts := rfl

/-- A name that `idpattern` matches as a whole. -/
def IsIdentifier : Bytes → Prop
  | [] => False
  | c :: cs => isIdStart c = true ∧ ∀ d ∈ cs, isIdChar d = true

/-- The part can stand before the text `r`: its name is an identifier, and a
`$name` is not followed by a character that would continue the name. -/
def Part.Fits : Part → Bytes → Prop
  | .text _, _ => True
  | .var name braced, r => IsIdentifier name ∧ (braced = false → ∀ c ∈ r.head?, isIdChar c = false)

/-- Each part can stand before the parts after it and then `r`. -/
def FitsBefore : List Part → Bytes → Prop
  | [], _ => True
  | p :: parts, r => p.Fits (print parts ++ r) ∧ FitsBefore parts r

/-- The parts can be written as a template. -/
def WellFormed (parts : List Part) : Prop := FitsBefore parts []

instance : DecidablePred IsIdentifier
  | [] => isFalse id
  | c :: cs => inferInstanceAs (Decidable (isIdStart c = true ∧ ∀ d ∈ cs, isIdChar d = true))

instance (p : Part) (r : Bytes) : Decidable (p.Fits r) :=
  match p with
  | .text _ => isTrue trivial
  | .var name braced =>
    inferInstanceAs (Decidable (IsIdentifier name ∧ (braced = false → ∀ c ∈ r.head?, isIdChar c = false)))

instance instDecidableFitsBefore : (parts : List Part) → (r : Bytes) → Decidable (FitsBefore parts r)
  | [], _ => isTrue trivial
  | p :: parts, r =>
    have := instDecidableFitsBefore parts r
    inferInstanceAs (Decidable (p.Fits (print parts ++ r) ∧ FitsBefore parts r))

instance (parts : List Part) : Decidable (WellFormed parts) := instDecidableFitsBefore parts []

example : WellFormed [.var "pid".toList false, .text ";".toList] := by decide

example : ¬ WellFormed [.var "pid".toList false, .text "s".toList] := by decide

/-- What a part means under `lookup`: its text, or the value of its name. -/
def Part.value (lookup : Bytes → Option Bytes) : Part → Except Exc Bytes
  | .text s => pure s
  | .var name _ => match lookup name with
    | some val => pure val
    | none => throw (.keyError name)

/-- What a template means under `lookup`: the meanings of its parts one
after the other, or the `KeyError` of the first name without a value. -/
def render (lookup : Bytes → Option Bytes) : List Part → Except Exc Bytes
  | [] => pure []
  | p :: parts => do
    let out ← p.value lookup
    let rest ← render lookup parts
    pure (out ++ rest)

/-- The text after a `$` starts `$$`, `$name` or `${name}`. -/
def StartsPlaceholder (rest : Bytes) : Prop :=
  rest.head? = some '$' ∨ (∃ c ∈ rest.head?, isIdStart c = true) ∨
    ∃ name r, IsIdentifier name ∧ rest = '{' :: name ++ '}' :: r

/-! ### Scanning a written template -/

/-- The pieces a part scans to. -/
def Part.pieces : Part → List Piece
  | .text s => s.map fun c => if c = '$' then .escaped else .char c
  | .var name false => [.named name]
  | .var name true => [.braced name]

theorem Part.fits_of_append {p : Part} {r : Bytes} (s : Bytes) (h : p.Fits (r ++ s)) : p.Fits r := by
  cases p with
  | text => trivial
  | var name braced =>
    refine ⟨h.1, fun hb c hc => h.2 hb c ?_⟩
    cases r with
    | nil => cases hc
    | cons d r => exact hc

theorem escape_cons (c : Char) (s : Bytes) :
    escape (c :: s) = (if c = '$' then ['$', '$'] else [c]) ++ escape s := rfl

theorem FitsBefore.of_append {parts : List Part} (r : Bytes) {s : Bytes} (h : FitsBefore parts (r ++ s)) :
    FitsBefore parts r := by
  induction parts with
  | nil => trivial
  | cons p parts ih =>
    refine ⟨Part.fits_of_append s ?_, ih h.2⟩
    rw [List.append_assoc]
    exact h.1

theorem scan_escape (s rest : Bytes) :
    scan .text (escape s ++ rest) = (Part.text s).pieces ++ scan .text rest := by
  induction s with
  | nil => rfl
  | cons c s ih =>
    by_cases hc : c = '$'
    · subst hc
      rw [escape_cons, if_pos rfl, List.append_assoc]
      exact congrArg (Piece.escaped :: ·) ih
    · rw [escape_cons, if_neg hc, List.append_assoc, List.singleton_append, scan_text_cons, if_neg hc, ih]
      simp [Part.pieces, hc]

/-- A part written before `r` scans to its own pieces, then the scan goes on
with `r`. -/
theorem scan_part {p : Part} {r : Bytes} (h : p.Fits r) : scan .text (p.print ++ r) = p.pieces ++ scan .text r := by
  cases p with
  | text s => exact scan_escape s r
  | var name braced =>
    obtain ⟨hid, hend⟩ := h
    obtain _ | ⟨c, cs⟩ := name
    · exact hid.elim
    obtain ⟨hc, hcs⟩ := hid
    cases braced with
    | false =>
      rw [Part.print, List.cons_append, scan_text_cons, if_pos rfl, List.cons_append, scan,
        if_neg (ne_dollar_of_isIdStart hc), if_pos hc, scan_named_append r hcs, scan_named_end _ (hend rfl)]
      rfl
    | true =>
      simp only [Part.print, List.cons_append, List.append_assoc, List.singleton_append]
      rw [scan_text_cons, if_pos rfl, scan, if_neg (by decide), if_neg (by decide), if_pos rfl, scan, if_pos hc,
        scan_braced_append _ hcs, scan, if_pos rfl]
      rfl

theorem scan_print {parts : List Part} {r : Bytes} (h : FitsBefore parts r) :
    scan .text (print parts ++ r) = (parts.map Part.pieces).flatten ++ scan .text r := by
  induction parts with
  | nil => rfl
  | cons p parts ih =>
    rw [print_cons, List.append_assoc, scan_part h.1, ih h.2]
    simp

/-! ### Converting the pieces -/

section Convert

variable (mapping : List (Bytes × Bytes))

theorem subPieces_cons (before : Bytes) (p : Piece) (ps : List Piece) :
    subPieces mapping before (p :: ps) = (do
      let out ← convert mapping before p
      let rest ← subPieces mapping (before ++ p.source) ps
      pure (out ++ rest)) := rfl

/-- A character of literal text converts back to itself. -/
theorem convert_textPiece (before : Bytes) (c : Char) :
    convert mapping before (if c = '$' then .escaped else .char c) = pure [c] := by
  split <;> simp_all [convert]

theorem source_textPiece (c : Char) :
    (if c = '$' then Piece.escaped else .char c).source = if c = '$' then ['$', '$'] else [c] := by
  split <;> rfl

/-- The pieces of a part convert to the part's meaning; the text before the
pieces after them grows by the part's text. -/
theorem subPieces_part (p : Part) (before : Bytes) (qs : List Piece) :
    subPieces mapping before (p.pieces ++ qs) = p.value (getItem mapping) >>= fun out =>
      (out ++ ·) <$> subPieces mapping (before ++ p.print) qs := by
  cases p with
  | text s =>
    induction s generalizing before with
    | nil => simp [Part.pieces, Part.print, Part.value, escape]
    | cons c s ih =>
      have hs := ih (before ++ if c = '$' then ['$', '$'] else [c])
      simp only [Part.pieces, Part.value, Part.print, except_pure, except_ok_bind] at hs ⊢
      rw [List.map_cons, List.cons_append, subPieces_cons, convert_textPiece, source_textPiece, except_pure,
        except_ok_bind, hs, escape_cons, ← List.append_assoc]
      rcases subPieces mapping _ qs <;> rfl
  | var name braced =>
    cases braced <;>
    · simp only [Part.pieces, Part.value, Part.print, List.singleton_append, subPieces_cons, convert, Piece.source]
      rcases getItem mapping name with _ | val
      · rfl
      · simp only [except_pure, except_ok_bind]
        rcases subPieces mapping _ qs <;> rfl

theorem subPieces_parts (parts : List Part) (before : Bytes) (qs : List Piece) :
    subPieces mapping before ((parts.map Part.pieces).flatten ++ qs) = render (getItem mapping) parts >>= fun out =>
      (out ++ ·) <$> subPieces mapping (before ++ print parts) qs := by
  induction parts generalizing before with
  | nil => simp [render]
  | cons p parts ih =>
    rw [List.map_cons, List.flatten_cons, List.append_assoc, subPieces_part, render]
    rcases p.value (getItem mapping) with e | out
    · rfl
    · simp only [except_ok_bind, ih, print_cons, List.append_assoc]
      rcases render (getItem mapping) parts with e | rest
      · rfl
      · simp only [except_ok_bind, except_pure]
        rcases subPieces mapping _ qs <;> simp

end Convert

/-- `substitute` gives a well-formed template its meaning. -/
theorem substitute_print {parts : List Part} (hw : WellFormed parts) (mapping : List (Bytes × Bytes)) :
    substitute (print parts) mapping = render (getItem mapping) parts := by
  have hscan := scan_print hw
  rw [List.append_nil] at hscan
  rw [substitute, hscan, subPieces_parts]
  rcases render (getItem mapping) parts <;> simp [scan, subPieces]

/-! ### Every template -/

theorem isIdentifier_takeWhile {c : Char} (hc : isIdStart c = true) (s : Bytes) :
    IsIdentifier (c :: s.takeWhile isIdChar) :=
  ⟨hc, fun _ hd => List.mem_takeWhile_imp hd⟩

/-- A `$` that starts no placeholder is an `invalid` match, and the scan ends there. -/
theorem scan_invalid {rest : Bytes} (h : ¬ StartsPlaceholder rest) : scan .text ('$' :: rest) = [.invalid] := by
  rw [scan_text_cons, if_pos rfl]
  obtain _ | ⟨c, s⟩ := rest
  · rfl
  have hc : c ≠ '$' := fun hc => h (.inl (by rw [hc]; rfl))
  have hid : isIdStart c = false := Bool.eq_false_iff.mpr fun hb => h (.inr (.inl ⟨c, rfl, hb⟩))
  rw [scan, if_neg hc, if_neg (by simp [hid])]
  by_cases hb : c = '{'
  · subst hb
    rw [if_pos rfl]
    obtain _ | ⟨d, s⟩ := s
    · rfl
    by_cases hd : isIdStart d
    · rw [scan, if_pos hd, ← List.takeWhile_append_dropWhile isIdChar s,
        scan_braced_append _ fun _ he => List.mem_takeWhile_imp he]
      have hnot := List.head?_dropWhile_not isIdChar s
      generalize hr : s.dropWhile isIdChar = r at hnot ⊢
      obtain _ | ⟨e, r⟩ := r
      · rfl
      have he : e ≠ '}' := by
        rintro rfl
        exact h (.inr (.inr ⟨_, r, isIdentifier_takeWhile hd s, by rw [← hr]; simp⟩))
      simp only [List.head?_cons] at hnot
      rw [scan, if_neg he, if_neg (by simp [hnot])]
    · rw [scan, if_neg hd]
  · rw [if_neg hb]

/-- Every template is a well-formed one, written before nothing or before a
`$` that starts no placeholder. -/
theorem decompose (t : Bytes) : ∃ parts tail, FitsBefore parts tail ∧ t = print parts ++ tail ∧
    (tail = [] ∨ ∃ rest, tail = '$' :: rest ∧ ¬ StartsPlaceholder rest) := by
  obtain ⟨n, hn⟩ : ∃ n, t.length = n := ⟨_, rfl⟩
  induction n using Nat.strong_induction_on generalizing t with
  | _ n ih =>
  obtain _ | ⟨c, s⟩ := t
  · exact ⟨[], [], trivial, rfl, .inl rfl⟩
  have hs := ih s.length (by simp at hn; omega) s rfl
  by_cases hc : c = '$'
  swap
  · obtain ⟨parts, tail, hf, rfl, htail⟩ := hs
    exact ⟨.text [c] :: parts, tail, ⟨trivial, hf⟩, by simp [Part.print, escape, hc], htail⟩
  subst hc
  obtain _ | ⟨d, s⟩ := s
  · refine ⟨[], ['$'], trivial, rfl, .inr ⟨[], rfl, ?_⟩⟩
    rintro (h | ⟨_, h, _⟩ | ⟨_, _, _, h⟩) <;> cases h
  have hlt : ∀ r : Bytes, r.length ≤ s.length → r.length < n := fun r hr => by simp at hn; omega
  by_cases hd : d = '$'
  · subst hd
    obtain ⟨parts, tail, hf, rfl, htail⟩ := ih _ (hlt s le_rfl) s rfl
    exact ⟨.text ['$'] :: parts, tail, ⟨trivial, hf⟩, by simp [Part.print, escape], htail⟩
  by_cases hid : isIdStart d
  · obtain ⟨parts, tail, hf, hrest, htail⟩ := ih _ (hlt _ (List.dropWhile_suffix isIdChar).length_le) _ rfl
    have hnot := List.head?_dropWhile_not isIdChar s
    refine ⟨.var (d :: s.takeWhile isIdChar) false :: parts, tail,
      ⟨⟨isIdentifier_takeWhile hid s, fun _ e he => ?_⟩, hf⟩, ?_, htail⟩
    · rw [hrest, Option.mem_def.mp he] at hnot
      exact hnot
    · rw [print_cons, Part.print, List.append_assoc, ← hrest, List.cons_append, List.cons_append,
        List.takeWhile_append_dropWhile]
  by_cases hb : d = '{' ∧ ∃ name r, IsIdentifier name ∧ s = name ++ '}' :: r
  · obtain ⟨rfl, name, r, hname, rfl⟩ := hb
    obtain ⟨parts, tail, hf, rfl, htail⟩ := ih _ (hlt r (by simp; omega)) r rfl
    exact ⟨.var name true :: parts, tail, ⟨⟨hname, nofun⟩, hf⟩, by simp [Part.print], htail⟩
  refine ⟨[], '$' :: d :: s, trivial, rfl, .inr ⟨d :: s, rfl, ?_⟩⟩
  rintro (h | ⟨e, h, he⟩ | ⟨name, r, hname, h⟩)
  · exact hd (Option.some.inj h)
  · cases h
    exact absurd he (by simp [hid])
  · cases h
    exact hb ⟨rfl, name, r, hname, rfl⟩

/-! ### `fill_template` -/

/-- The value `fill_template` puts for `key`: the one in `extra_kvs`, if it is
given and has one, else the configuration's. -/
def configured (kvs : List (Bytes × Bytes)) (extraKvs : Option (List (Bytes × Bytes))) (key : Bytes) :
    Option Bytes :=
  (extraKvs.bind fun extra => getItem extra key).or (getItem kvs key)

theorem getItem_update (kvs : List (Bytes × Bytes)) (extraKvs : Option (List (Bytes × Bytes))) :
    getItem (match extraKvs with | some extra => update kvs extra | none => kvs) = configured kvs extraKvs := by
  funext key
  cases extraKvs <;> simp [configured, update, getItem_append]

/-- A well-formed template fills to its literal text with each name replaced
by its value from `extra_kvs`, or else from the configuration; the first name
found in neither raises `KeyError`. -/
theorem fillTemplate_print {parts : List Part} (hw : WellFormed parts) (kvs : List (Bytes × Bytes))
    (extraKvs : Option (List (Bytes × Bytes))) :
    fillTemplate kvs (print parts) extraKvs = render (configured kvs extraKvs) parts := by
  unfold fillTemplate
  rw [substitute_print hw, getItem_update]

theorem fillTemplate_print_serverIp :
    WellFormed [.text "server ".toList, .var "server_ip".toList true, .text ":8000;".toList] ∧
      fillTemplate [("server_ip".toList, "10.0.0.2".toList)]
          (print [.text "server ".toList, .var "server_ip".toList true, .text ":8000;".toList]) none =
        render (configured [("server_ip".toList, "10.0.0.2".toList)] none)
          [.text "server ".toList, .var "server_ip".toList true, .text ":8000;".toList] :=
  ⟨by decide, fillTemplate_print (by decide) _ _⟩

/-- Every template is a well-formed template, or one followed by a `$` that
starts no placeholder; there `fill_template` raises `ValueError` with the
message `_invalid` builds from the text before it, unless a name before it
has no value. -/
theorem fillTemplate_cases (kvs : List (Bytes × Bytes)) (template : Bytes)
    (extraKvs : Option (List (Bytes × Bytes))) :
    ∃ parts, WellFormed parts ∧
      ((template = print parts ∧ fillTemplate kvs template extraKvs = render (configured kvs extraKvs) parts) ∨
        ∃ rest, template = print parts ++ '$' :: rest ∧ ¬ StartsPlaceholder rest ∧
          fillTemplate kvs template extraKvs = render (configured kvs extraKvs) parts >>= fun _ =>
            throw (.valueError (invalidMessage (print parts ++ ['$'])))) := by
  obtain ⟨parts, tail, hf, rfl, htail⟩ := decompose template
  rcases htail with rfl | ⟨rest, rfl, hrest⟩
  · rw [List.append_nil]
    refine ⟨parts, hf, .inl ⟨rfl, ?_⟩⟩
    unfold fillTemplate
    rw [substitute_print hf, getItem_update]
  refine ⟨parts, FitsBefore.of_append [] hf, .inr ⟨rest, rfl, hrest, ?_⟩⟩
  unfold fillTemplate
  rw [substitute, scan_print hf, scan_invalid hrest, subPieces_parts, getItem_update]
  rcases render (configured kvs extraKvs) parts <;> rfl

end TempestaTest.Template
