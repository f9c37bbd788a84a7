import Mathlib.Data.List.DropRight

/-!
# The Python built-ins the tool-info template calls

`template.py` leans on a handful of methods of `str` and `os.path`. Each is
modelled here by one definition on the character list of a `String`, with the
character classes CPython uses: `str.strip()` removes the characters of
`Py_UNICODE_ISSPACE` at both ends, and `str.splitlines()` cuts at those of
`Py_UNICODE_ISLINEBREAK`, reading `\r\n` as one boundary and adding no empty
line after a final boundary. The exceptions the template can raise are
collected in `PyError`; Python's truthiness of the values it tests is `truthy`.

The last section relates the lines of a text to the lines of the same text
followed by white space (`BlankExtension`), for the version probe, which strips
its whole output before it cuts it into lines.
-/

namespace BenchExec

/-- The exceptions raised by the code of `template.py`. -/
inductive PyError where
  /-- The `AssertionError` of the files-xor-identifier check of `Task.__new__`,
  with the two values its message
  `"exactly one is required: input_files=%r identifier=%r"` formats. -/
  | assertionError (inputFiles : List String) (identifier : Option String)
  /-- `UnsupportedFeatureException` with its message. -/
  | unsupportedFeature (message : String)
  /-- A `TypeError` with its message. -/
  | typeError (message : String)
  /-- The `UnicodeDecodeError` of `util.decode_to_string` on bytes that are not
  UTF-8, with its message. -/
  | unicodeDecodeError (message : String)
  deriving DecidableEq, Repr

instance exceptDecidableEq {ε α : Type} [DecidableEq ε] [DecidableEq α] :
    DecidableEq (Except ε α)
  | .ok a, .ok b => decidable_of_iff (a = b) (by simp)
  | .error a, .error b => decidable_of_iff (a = b) (by simp)
  | .ok _, .error _ => isFalse Except.noConfusion
  | .error _, .ok _ => isFalse Except.noConfusion

theorem map_eq_ok {ε α β : Type} {f : α → β} {x : Except ε α} {b : β} :
    f <$> x = .ok b ↔ ∃ a, x = .ok a ∧ f a = b := by
  cases x <;> simp

namespace Py

/-- `bool(x)` for a value that is `None` or a `str`. -/
def truthy : Option String → Bool
  | none => false
  | some s => s != ""

@[simp] theorem truthy_none : truthy none = false := rfl

@[simp] theorem truthy_some (s : String) : truthy (some s) = (s != "") := rfl

/-- `tuple(x)` for a value that is `None` or a `str`: the characters of a
string, each a string of its own; `None` is not iterable. -/
def tuple : Option String → Except PyError (List String)
  | none => .error (.typeError "'NoneType' object is not iterable")
  | some s => .ok (s.data.map Char.toString)

/-! ### `str` -/

/-- `Py_UNICODE_ISSPACE`: the characters `str.strip()` removes. -/
def isSpace (c : Char) : Bool :=
  let n := c.toNat
  (9 ≤ n && n ≤ 13) || (28 ≤ n && n ≤ 32) || n == 0x85 || n == 0xA0 ||
    n == 0x1680 || (0x2000 ≤ n && n ≤ 0x200A) || n == 0x2028 || n == 0x2029 ||
    n == 0x202F || n == 0x205F || n == 0x3000

/-- `Py_UNICODE_ISLINEBREAK`: the line boundaries of `str.splitlines()`. -/
def isLineBreak (c : Char) : Bool :=
  let n := c.toNat
  (10 ≤ n && n ≤ 13) || (28 ≤ n && n ≤ 30) || n == 0x85 || n == 0x2028 ||
    n == 0x2029

def strip (s : String) : String :=
  ⟨(s.data.dropWhile isSpace).rdropWhile isSpace⟩

def startswith (s pre : String) : Bool :=
  pre.data.isPrefixOf s.data

/-- The slice `s[n:]`. -/
def sliceFrom (s : String) (n : Nat) : String :=
  ⟨s.data.drop n⟩

/-- The loop of `str.splitlines()` over the characters not read yet; `line`
holds the current line, reversed. -/
def splitlinesFrom : List Char → List Char → List String
  | line, [] => if line.isEmpty then [] else [⟨line.reverse⟩]
  | line, '\r' :: '\n' :: rest => ⟨line.reverse⟩ :: splitlinesFrom [] rest
  | line, c :: rest =>
      if isLineBreak c then ⟨line.reverse⟩ :: splitlinesFrom [] rest
      else splitlinesFrom (c :: line) rest

def splitlines (s : String) : List String :=
  splitlinesFrom [] s.data

example : splitlines "a\r\nb\n\nc\n" = ["a", "b", "", "c"] := by decide

/-! ### `os.path` -/

def curdir : String := "."

def pardir : String := ".."

/-- `posixpath.dirname(p)`: `p` up to its last `/`, with the trailing slashes
removed unless it is made of slashes only. -/
def dirname (p : String) : String :=
  let head := (p.data.reverse.dropWhile (· != '/')).reverse
  if !head.isEmpty && !head.all (· == '/') then ⟨head.rdropWhile (· == '/')⟩
  else ⟨head⟩

/-- `posixpath.join(a, b)`. -/
def join (a b : String) : String :=
  if startswith b "/" then b
  else if a == "" || a.data.getLast? == some '/' then a ++ b
  else a ++ "/" ++ b

theorem dirname_of_not_mem {p : String} (h : '/' ∉ p.data) : dirname p = "" := by
  have hdrop : p.data.reverse.dropWhile (· != '/') = [] :=
    List.dropWhile_eq_nil_iff.2 fun c hc => by
      simp only [bne_iff_ne, ne_eq]
      rintro rfl
      exact h (List.mem_reverse.1 hc)
  simp only [dirname, hdrop]
  rfl

/-- The directory of `dir/name` is `dir`, for a `dir` that does not end with a
slash. -/
theorem dirname_append_name {d name : List Char} {c : Char} (hc : c ≠ '/')
    (hname : '/' ∉ name) : dirname ⟨d ++ c :: '/' :: name⟩ = ⟨d ++ [c]⟩ := by
  have hdrop : (d ++ c :: '/' :: name).reverse.dropWhile (· != '/') =
      '/' :: c :: d.reverse := by
    rw [List.reverse_append, List.reverse_cons, List.reverse_cons, List.append_assoc,
      List.append_assoc, List.dropWhile_append_of_pos]
    · simp
    · intro x hx
      simp only [bne_iff_ne, ne_eq]
      rintro rfl
      exact hname (List.mem_reverse.1 hx)
  have hlast : (d ++ [c, '/']).rdropWhile (· == '/') = d ++ [c] := by
    rw [show d ++ [c, '/'] = d ++ [c] ++ ['/'] by simp, List.rdropWhile_concat_pos _ _ _ rfl]
    exact List.rdropWhile_concat_neg _ d c (by simpa using hc)
  simp only [dirname, hdrop]
  simp [hc, hlast]

theorem join_pardir {d : List Char} {c : Char} (hc : c ≠ '/') :
    join ⟨d ++ [c]⟩ pardir = ⟨d ++ [c]⟩ ++ "/" ++ pardir := by
  simp [join, startswith, pardir, hc, String.ext_iff]

/-! ### What `strip` and `splitlines` leave -/

section Lists

variable {α : Type} (p : α → Bool)

theorem head?_rdropWhile_dropWhile (l : List α) :
    ∀ c ∈ ((l.dropWhile p).rdropWhile p).head?, p c = false := by
  intro c hc
  obtain ⟨t, ht⟩ := List.rdropWhile_prefix p (l.dropWhile p)
  have hhead := List.head?_dropWhile_not p l
  cases h : (l.dropWhile p).rdropWhile p with
  | nil => simp [h] at hc
  | cons e es =>
      rw [h, List.cons_append] at ht
      rw [h, List.head?_cons, Option.mem_some_iff] at hc
      rw [← ht, List.head?_cons] at hhead
      exact hc ▸ hhead

theorem getLast?_rdropWhile (l : List α) :
    ∀ c ∈ (l.rdropWhile p).getLast?, p c = false := by
  intro c hc
  have hne : l.rdropWhile p ≠ [] := by rintro h; simp [h] at hc
  rw [List.getLast?_eq_getLast _ hne, Option.mem_some_iff] at hc
  subst hc
  simpa using List.rdropWhile_last_not p l hne

theorem rdropWhile_append_of_forall (l : List α) {w : List α} (hw : ∀ x ∈ w, p x = true) :
    (l ++ w).rdropWhile p = l.rdropWhile p := by
  have hdrop : w.reverse.dropWhile p = [] :=
    List.dropWhile_eq_nil_iff.2 fun x hx => hw x (List.mem_reverse.1 hx)
  simp [List.rdropWhile, List.dropWhile_append, hdrop]

end Lists

/-- A string with no whitespace at either end, as `str.strip()` leaves it. -/
def IsStripped (s : String) : Prop :=
  (∀ c ∈ s.data.head?, isSpace c = false) ∧ ∀ c ∈ s.data.getLast?, isSpace c = false

theorem isStripped_empty : IsStripped "" :=
  ⟨(fun _ h => nomatch h), fun _ h => nomatch h⟩

theorem strip_isStripped (s : String) : IsStripped (strip s) :=
  ⟨head?_rdropWhile_dropWhile isSpace s.data,
    getLast?_rdropWhile isSpace (s.data.dropWhile isSpace)⟩

theorem strip_isInfix (s : String) : (strip s).data <:+: s.data :=
  (List.rdropWhile_prefix _ _).isInfix.trans (List.dropWhile_suffix _).isInfix

/-- A string that holds no line boundary. -/
def NoLineBreak (s : String) : Prop :=
  ∀ c ∈ s.data, isLineBreak c = false

instance : DecidablePred NoLineBreak :=
  fun s => inferInstanceAs (Decidable (∀ c ∈ s.data, _))

theorem NoLineBreak.strip {s : String} (h : NoLineBreak s) : NoLineBreak (strip s) :=
  fun c hc => h c ((strip_isInfix s).subset hc)

theorem NoLineBreak.sliceFrom {s : String} (h : NoLineBreak s) (n : Nat) :
    NoLineBreak (sliceFrom s n) :=
  fun c hc => h c (List.mem_of_mem_drop hc)

/-- Every line the loop of `splitlines` emits is free of line boundaries, given
that the current line is. -/
theorem noLineBreak_of_mem_splitlinesFrom (line rest : List Char)
    (hline : ∀ c ∈ line, isLineBreak c = false) :
    ∀ l ∈ splitlinesFrom line rest, NoLineBreak l := by
  have hcur : NoLineBreak ⟨line.reverse⟩ := fun c hc => hline c (List.mem_reverse.1 hc)
  induction line, rest using splitlinesFrom.induct with
  | case1 line h => simp [splitlinesFrom, h]
  | case2 line h => simpa [splitlinesFrom, h] using hcur
  | case3 line rest ih =>
      exact List.forall_mem_cons.2 ⟨hcur, ih (by simp) (by simp [NoLineBreak])⟩
  | case4 line c rest hcr hc ih =>
      rw [splitlinesFrom.eq_3 _ _ _ hcr, if_pos hc]
      exact List.forall_mem_cons.2 ⟨hcur, ih (by simp) (by simp [NoLineBreak])⟩
  | case5 line c rest hcr hc ih =>
      have hcons : ∀ d ∈ c :: line, isLineBreak d = false := by simpa [hc] using hline
      rw [splitlinesFrom.eq_3 _ _ _ hcr, if_neg hc]
      exact ih hcons fun d hd => hcons d (List.mem_reverse.1 hd)

theorem noLineBreak_of_mem_splitlines {s l : String} (h : l ∈ splitlines s) :
    NoLineBreak l :=
  noLineBreak_of_mem_splitlinesFrom [] s.data (by simp) l h

/-- Every line the loop of `splitlines` emits is a contiguous piece of the
current line followed by the characters not read yet. -/
theorem isInfix_of_mem_splitlinesFrom (line rest : List Char) :
    ∀ l ∈ splitlinesFrom line rest, l.data <:+: line.reverse ++ rest := by
  induction line, rest using splitlinesFrom.induct with
  | case1 line h => simp [splitlinesFrom, h]
  | case2 line h => simp [splitlinesFrom, h]
  | case3 line rest ih =>
      refine List.forall_mem_cons.2
        ⟨(List.prefix_append _ _).isInfix, fun l hl => (ih l hl).trans ?_⟩
      simpa using (List.suffix_append (line.reverse ++ ['\r', '\n']) rest).isInfix
  | case4 line c rest hcr hc ih =>
      rw [splitlinesFrom.eq_3 _ _ _ hcr, if_pos hc]
      refine List.forall_mem_cons.2
        ⟨(List.prefix_append _ _).isInfix, fun l hl => (ih l hl).trans ?_⟩
      simpa using (List.suffix_append (line.reverse ++ [c]) rest).isInfix
  | case5 line c rest hcr hc ih =>
      rw [splitlinesFrom.eq_3 _ _ _ hcr, if_neg hc]
      simpa using ih

theorem isInfix_of_mem_splitlines {s l : String} (h : l ∈ splitlines s) : l.data <:+: s.data :=
  isInfix_of_mem_splitlinesFrom [] s.data l h

/-- A string of white space only, or empty. -/
def IsBlank (s : String) : Prop :=
  ∀ c ∈ s.data, isSpace c = true

theorem isSpace_of_isLineBreak {c : Char} (h : isLineBreak c = true) : isSpace c = true := by
  simp only [isLineBreak, isSpace, Bool.or_eq_true, Bool.and_eq_true, decide_eq_true_eq,
    beq_iff_eq] at h ⊢
  omega

theorem strip_of_isBlank {s : String} (h : IsBlank s) : strip s = "" := by
  simp [strip, List.dropWhile_eq_nil_iff.2 h]

theorem strip_append_blank (s : List Char) {w : List Char} (hw : ∀ c ∈ w, isSpace c = true) :
    strip ⟨s ++ w⟩ = strip ⟨s⟩ := by
  simp only [strip, List.dropWhile_append]
  split
  · next h => rw [List.dropWhile_eq_nil_iff.2 hw, List.isEmpty_iff.1 h]
  · exact congrArg _ (rdropWhile_append_of_forall _ _ hw)

/-- The loop emits the current line continued by a prefix of the characters not
read yet, and then lines cut from those characters; it emits nothing only when
both are empty. -/
theorem splitlinesFrom_eq_cons (line rest : List Char) : line ≠ [] ∨ rest ≠ [] →
    ∃ s tail, s <+: rest ∧ (∀ l ∈ tail, l.data <:+: rest) ∧
      splitlinesFrom line rest = ⟨line.reverse ++ s⟩ :: tail := by
  induction line, rest using splitlinesFrom.induct with
  | case1 line h => simp [List.isEmpty_iff.1 h]
  | case2 line h =>
      exact fun _ => ⟨[], [], List.nil_prefix, by simp, by simp [splitlinesFrom, h]⟩
  | case3 line rest =>
      refine fun _ => ⟨[], splitlinesFrom [] rest, List.nil_prefix, fun l hl => ?_, by
        simp [splitlinesFrom]⟩
      simpa using (isInfix_of_mem_splitlinesFrom [] rest l hl).trans
        (List.suffix_append ['\r', '\n'] rest).isInfix
  | case4 line c rest hcr hc =>
      refine fun _ => ⟨[], splitlinesFrom [] rest, List.nil_prefix, fun l hl => ?_, by
        rw [splitlinesFrom.eq_3 _ _ _ hcr, if_pos hc, List.append_nil]⟩
      simpa using (isInfix_of_mem_splitlinesFrom [] rest l hl).trans
        (List.suffix_cons c rest).isInfix
  | case5 line c rest hcr hc ih =>
      obtain ⟨s, tail, hs, htail, heq⟩ := ih (.inl (List.cons_ne_nil c line))
      refine fun _ => ⟨c :: s, tail, List.cons_prefix_cons.2 ⟨rfl, hs⟩,
        fun l hl => (htail l hl).trans (List.suffix_cons c rest).isInfix, ?_⟩
      rw [splitlinesFrom.eq_3 _ _ _ hcr, if_neg hc, heq]
      simp

/-- `lines'` is `lines` with white space added at the end of its last line and
blank lines after it: what `splitlines` makes of a text followed by white space. -/
inductive BlankExtension : List String → List String → Prop
  | blanks {tail : List String} : (∀ l ∈ tail, IsBlank l) → BlankExtension [] tail
  | last (l : String) {w : List Char} {tail : List String} : (∀ c ∈ w, isSpace c = true) →
      (∀ l ∈ tail, IsBlank l) → BlankExtension [l] (⟨l.data ++ w⟩ :: tail)
  | cons (l : String) {lines lines' : List String} : BlankExtension lines lines' →
      BlankExtension (l :: lines) (l :: lines')

theorem isBlank_of_mem_splitlinesFrom {w : List Char} (hw : ∀ c ∈ w, isSpace c = true) :
    ∀ l ∈ splitlinesFrom [] w, IsBlank l :=
  fun l hl c hc => hw c ((isInfix_of_mem_splitlinesFrom [] w l hl).subset (by simpa using hc))

/-- The loop reads white space after a text that does not end in a line boundary
into the last line and blank lines after it. -/
theorem splitlinesFrom_append_blank {w : List Char} (hw : ∀ c ∈ w, isSpace c = true)
    (line u : List Char) : (∀ c ∈ u.getLast?, isLineBreak c = false) →
      BlankExtension (splitlinesFrom line u) (splitlinesFrom line (u ++ w)) := by
  induction line, u using splitlinesFrom.induct with
  | case1 line h =>
      rw [List.isEmpty_iff.1 h]
      exact fun _ => .blanks (isBlank_of_mem_splitlinesFrom hw)
  | case2 line h =>
      obtain ⟨s, tail, hs, htail, heq⟩ :=
        splitlinesFrom_eq_cons line w (.inl (by simpa using h))
      refine fun _ => ?_
      rw [List.nil_append, heq, splitlinesFrom, if_neg h]
      exact .last _ (fun c hc => hw c (hs.subset hc))
        fun l hl c hc => hw c ((htail l hl).subset hc)
  | case3 line rest ih =>
      rcases rest with _ | ⟨r, rs⟩
      · exact fun hu => absurd (hu '\n' rfl) (by decide)
      · exact fun hu => by simpa [splitlinesFrom] using .cons _ (ih hu)
  | case4 line c rest hcr hc ih =>
      rcases rest with _ | ⟨r, rs⟩
      · exact fun hu => absurd (hu c rfl) (by simp [hc])
      · intro hu
        have hcr' : ∀ x, c = '\r' → r :: rs ++ w = '\n' :: x → False :=
          fun _ h hx => hcr rs h (by rw [(List.cons_eq_cons.1 hx).1])
        rw [List.cons_append, splitlinesFrom.eq_3 _ _ _ hcr, splitlinesFrom.eq_3 _ _ _ hcr',
          if_pos hc, if_pos hc]
        exact .cons _ (ih hu)
  | case5 line c rest hcr hc ih =>
      have hcr' : ∀ x, c = '\r' → rest ++ w = '\n' :: x → False :=
        fun _ h => absurd (h ▸ hc) (by decide)
      intro hu
      rw [List.cons_append, splitlinesFrom.eq_3 _ _ _ hcr, splitlinesFrom.eq_3 _ _ _ hcr',
        if_neg hc, if_neg hc]
      rcases rest with _ | ⟨r, rs⟩
      · exact ih fun _ h => nomatch h
      · exact ih hu

end Py

end BenchExec
