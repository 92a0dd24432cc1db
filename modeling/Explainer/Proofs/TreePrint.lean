import Explainer.Proofs.FieldPath
import Explainer.Proofs.TokenCut
import Explainer.Proofs.TreeMachine

/-!
# A tree is read back from its standard spelling

Printing writes a tree down with standard tags, cutting and reading make a
tree of the text again, and it is the same tree, for every tree that can be
meant by a text at all: no empty texts and no two texts in a row, paths and
binders that are made of identifiers, and texts without the two characters
that open a tag. Identifiers may be spelled like the words of directives, and
texts may hold closing brackets; neither is mistaken for the real thing.

The way back has two halves, and between them stand the tokens of a tree,
`Node.tokens`. Cutting the spelling yields these tokens. The proof goes from
the right: what is already known to be cut rightly is either free to follow a
text or not, and `CutsAfterText` is the difference. Reading the tokens yields
the nodes; here the machine of the tree reader pays off, since on the tokens
of a node it comes back to the state it was in, with that node added.
-/

namespace Explainer.Template

open Directive

/-! ## Trees that a text can mean -/

/-- Whether the node is text. -/
def Node.isText : Node → Bool
  | .text _ => true
  | _ => false

namespace Node

mutual

/-- A node that its spelling determines. -/
def Printable : Node → Prop
  | .text t => t ≠ [] ∧ '{' ∉ t ∧ '[' ∉ t
  | .value path => DottedPath path
  | .branch _ path thenPart elsePart =>
      DottedPath path ∧ AllPrintable thenPart ∧ AllPrintable elsePart
  | .loop binder path body =>
      isIdentifier binder = true ∧ DottedPath path ∧ AllPrintable body

/-- A list of such nodes, with no text right before another. -/
def AllPrintable : List Node → Prop
  | [] => True
  | n :: rest =>
      n.Printable ∧ (∀ m ∈ rest.head?, ¬ (n.isText ∧ m.isText)) ∧ AllPrintable rest

end

/-! ## The tokens of a tree -/

/-- What stands in the tag of a directive of the given words. -/
def spaced (ws : List Text) : Text := ' ' :: ws.flatMap fun w => w ++ [' ']

mutual

/-- The tokens of a node in its standard spelling. -/
def tokens : Node → List Token
  | .text t => [.text t]
  | .value path => [.escape path]
  | .branch negate path thenPart elsePart =>
      .evaluate (spaced [if negate then unlessWord else ifWord, path])
        :: tokensAll thenPart
        ++ (if elsePart.isEmpty then []
          else .evaluate (spaced [elseWord]) :: tokensAll elsePart)
        ++ [.evaluate (spaced [endWord])]
  | .loop binder path body =>
      .evaluate (spaced [forWord, binder, inWord, path])
        :: tokensAll body ++ [.evaluate (spaced [endWord])]

/-- The tokens of a list of nodes. -/
def tokensAll : List Node → List Token
  | [] => []
  | n :: rest => n.tokens ++ tokensAll rest

end

end Node

open Node

/-! ## What may stand in a tag -/

/-- A text on one line without the first character of the closing bracket is
an expression. -/
theorem IsExpression.of_notMem {c d : Char} {e : Text} (hne : e ≠ [])
    (hline : '\n' ∉ e) (hc : c ∉ e) : IsExpression [c, d] e where
  ne_nil := hne
  single_line := hline
  shortest := by
    intro k _ hlt hpre
    rw [List.drop_append_of_le_length (Nat.le_of_lt hlt),
      List.drop_eq_getElem_cons hlt, List.cons_append, List.cons_prefix_cons] at hpre
    exact hc (hpre.1 ▸ List.getElem_mem hlt)

theorem DottedPath.isExpression {path : Text} (h : DottedPath path) :
    IsExpression ['}', '}'] path := by
  have hnot : ∀ c, isIdentifierChar c = false → c ≠ '.' → c ∉ path := by
    intro c hid hdot hc
    rcases h.mem hc with hid' | rfl
    · rw [hid] at hid'
      cases hid'
    · exact hdot rfl
  exact .of_notMem h.ne_nil (hnot '\n' (by decide) (by decide))
    (hnot '}' (by decide) (by decide))

theorem isExpression_spaced {ws : List Text} (h : ∀ w ∈ ws, DottedPath w) :
    IsExpression ['%', ']'] (spaced ws) := by
  have hnot : ∀ c, isIdentifierChar c = false → c ≠ '.' → c ≠ ' ' →
      c ∉ spaced ws := by
    intro c hid hdot hblank hc
    rw [spaced, List.mem_cons, List.mem_flatMap] at hc
    rcases hc with rfl | ⟨w, hw, hc⟩
    · exact hblank rfl
    · rw [List.mem_append, List.mem_singleton] at hc
      rcases hc with hc | rfl
      · rcases (h w hw).mem hc with hid' | rfl
        · rw [hid] at hid'
          cases hid'
        · exact hdot rfl
      · exact hblank rfl
  exact .of_notMem (List.cons_ne_nil _ _)
    (hnot '\n' (by decide) (by decide) (by decide))
    (hnot '%' (by decide) (by decide) (by decide))

theorem words_spaced {ws : List Text} (h : ∀ w ∈ ws, DottedPath w) :
    Text.words (spaced ws) = ws := by
  rw [spaced, Text.words_cons_blank, Text.words_flatMap fun w hw => (h w hw).isWord]

/-! ## Cutting the spelling -/

theorem StartsAnyTag.head {c : Char} {s : Text} (h : StartsAnyTag (c :: s)) :
    c = '{' ∨ c = '[' := by
  obtain ⟨f, e, rest, _, _, hs⟩ := h
  cases f
  · exact .inl (List.cons.inj hs).1
  · exact .inr (List.cons.inj hs).1

theorem not_startsAnyTag_drop {t s : Text} (hbrace : '{' ∉ t)
    (hbracket : '[' ∉ t) {k : Nat} (hk : k < t.length) :
    ¬ StartsAnyTag ((t ++ s).drop k) := by
  intro h
  rw [List.drop_append_of_le_length (Nat.le_of_lt hk),
    List.drop_eq_getElem_cons hk, List.cons_append] at h
  rcases h.head with hc | hc
  · exact hbrace (hc ▸ List.getElem_mem hk)
  · exact hbracket (hc ▸ List.getElem_mem hk)

/-- The cut is right, and stays right behind a text that opens no tag. -/
def CutsAfterText (s : Text) (ts : List Token) : Prop :=
  ∀ t : Text, '{' ∉ t → '[' ∉ t → Cut (t ++ s) (plain t ++ ts)

theorem CutsAfterText.cut {s : Text} {ts : List Token}
    (h : CutsAfterText s ts) : Cut s ts :=
  h [] List.not_mem_nil List.not_mem_nil

theorem cutsAfterText_nil : CutsAfterText [] [] := by
  intro t hbrace hbracket
  rw [List.append_nil, List.append_nil]
  refine .rest fun k => ?_
  rcases Nat.lt_or_ge k t.length with hk | hk
  · have h := not_startsAnyTag_drop (s := []) hbrace hbracket hk
    rwa [List.append_nil] at h
  · rw [List.drop_eq_nil_of_le hk]
    exact not_startsAnyTag_nil

theorem cutsAfterText_tag {f : Family} {e s : Text} {ts : List Token}
    (he : IsExpression f.closing e) (h : Cut s ts) :
    CutsAfterText (f.tag e ++ s) (f.token e :: ts) :=
  fun _ hbrace hbracket =>
    .tag (fun _ hk => not_startsAnyTag_drop hbrace hbracket hk) he h

theorem cutsAfterText_wordsTag (ws : List Text) (hws : ∀ w ∈ ws, DottedPath w)
    {s : Text} {ts : List Token} (h : Cut s ts) :
    CutsAfterText (wordsTag ws ++ s) (.evaluate (spaced ws) :: ts) :=
  cutsAfterText_tag (f := .directive) (isExpression_spaced hws) h

theorem dottedPath_word {w : Text}
    (h : w ∈ [ifWord, unlessWord, forWord, inWord, elseWord, endWord]) :
    DottedPath w := by
  refine .of_isIdentifier ?_
  revert w
  decide

theorem cutsAfterText_endTag {s : Text} {ts : List Token} (h : Cut s ts) :
    CutsAfterText (wordsTag [endWord] ++ s)
      (.evaluate (spaced [endWord]) :: ts) :=
  cutsAfterText_wordsTag _ (by simp [dottedPath_word]) h

namespace Node

mutual

/-- A node that is not text is cut into its tokens, whatever text precedes it
and whatever follows. -/
theorem cutsAfterText_print {n : Node} (hn : n.Printable)
    (htext : n.isText = false) {s : Text} {ts : List Token} (h : Cut s ts) :
    CutsAfterText (n.print ++ s) (n.tokens ++ ts) := by
  match n with
  | .text t => cases htext
  | .value path => exact cutsAfterText_tag (f := .interpolation) hn.isExpression h
  | .branch negate path thenPart elsePart =>
      obtain ⟨hpath, hthen, helse⟩ := hn
      have hend := cutsAfterText_endTag h
      have hmid : CutsAfterText
          ((if elsePart.isEmpty then [] else wordsTag [elseWord] ++ printAll elsePart)
            ++ (wordsTag [endWord] ++ s))
          ((if elsePart.isEmpty then []
            else .evaluate (spaced [elseWord]) :: tokensAll elsePart)
            ++ .evaluate (spaced [endWord]) :: ts) := by
        split
        · exact hend
        · rw [List.append_assoc, List.cons_append]
          exact cutsAfterText_wordsTag _ (by simp [dottedPath_word])
            (cut_printAll helse hend).1
      have hopen : ∀ w ∈ [if negate then unlessWord else ifWord, path],
          DottedPath w := by
        cases negate <;> simp [dottedPath_word, hpath]
      have hcut := cutsAfterText_wordsTag _ hopen (cut_printAll hthen hmid).1
      simpa only [print, tokens, List.append_assoc, List.cons_append,
        List.nil_append] using hcut
  | .loop binder path body =>
      obtain ⟨hbinder, hpath, hbody⟩ := hn
      have hopen : ∀ w ∈ [forWord, binder, inWord, path], DottedPath w := by
        simp [dottedPath_word, hpath, DottedPath.of_isIdentifier hbinder]
      have hcut := cutsAfterText_wordsTag _ hopen
        (cut_printAll hbody (cutsAfterText_endTag h)).1
      simpa only [print, tokens, List.append_assoc, List.cons_append,
        List.nil_append] using hcut

theorem cut_printAll {ns : List Node} (hns : AllPrintable ns) {s : Text}
    {ts : List Token} (h : CutsAfterText s ts) :
    Cut (printAll ns ++ s) (tokensAll ns ++ ts) ∧
      ((∀ m ∈ ns.head?, m.isText = false) →
        CutsAfterText (printAll ns ++ s) (tokensAll ns ++ ts)) := by
  match ns with
  | [] => exact ⟨h.cut, fun _ => h⟩
  | n :: rest =>
      obtain ⟨hn, hapart, hrest⟩ := hns
      obtain ⟨hcut, hafter⟩ := cut_printAll hrest h
      rw [printAll, tokensAll, List.append_assoc, List.append_assoc]
      cases htext : n.isText with
      | false =>
          have hn' := cutsAfterText_print hn htext hcut
          exact ⟨hn'.cut, fun _ => hn'⟩
      | true =>
          -- A text is cut rightly only because what follows is not text.
          refine ⟨?_, fun hhead => absurd (hhead n rfl) (by simp [htext])⟩
          match n with
          | .text t =>
              obtain ⟨hne, hbrace, hbracket⟩ := hn
              have hafter' := hafter fun m hm => by simpa [htext] using hapart m hm
              have hcut' := hafter' t hbrace hbracket
              rwa [plain, if_neg hne] at hcut'

end

end Node

/-! ## Reading the tokens -/

theorem parse_spaced (ws : List Text) (h : ∀ w ∈ ws, DottedPath w) :
    Directive.parse (spaced ws) = Directive.ofWords (spaced ws).trim ws := by
  rw [Directive.parse, words_spaced h]

theorem parse_branch (negate : Bool) {path : Text} (h : DottedPath path) :
    Directive.parse (spaced [if negate then unlessWord else ifWord, path])
      = .ok (.branch negate path) := by
  rw [parse_spaced _ (by cases negate <;> simp [dottedPath_word, h])]
  cases negate
  · simp only [Directive.ofWords, Bool.false_eq_true, if_false, if_true, h.readPath]
    rfl
  · have hne : unlessWord ≠ ifWord := by decide
    simp only [Directive.ofWords, if_true, if_neg hne, h.readPath]
    rfl

theorem parse_loop {binder path : Text} (hb : isIdentifier binder = true)
    (h : DottedPath path) :
    Directive.parse (spaced [forWord, binder, inWord, path])
      = .ok (.loop binder path) := by
  rw [parse_spaced _ (by simp [dottedPath_word, h, DottedPath.of_isIdentifier hb])]
  simp only [Directive.ofWords, hb, decide_true, Bool.and_self, if_true, h.readPath]
  rfl

theorem parse_elseWord : Directive.parse (spaced [elseWord]) = .ok .otherwise := by
  rw [parse_spaced _ (by simp [dottedPath_word])]
  rfl

theorem parse_endWord : Directive.parse (spaced [endWord]) = .ok .close := by
  rw [parse_spaced _ (by simp [dottedPath_word])]
  rfl

namespace Reading

theorem run_evaluate (r : Reading) {raw : Text} {d : Directive}
    (h : Directive.parse raw = .ok d) (ts : List Token) :
    r.run (.evaluate raw :: ts) = (match d with
      | .branch negate path => .ok (r.enter raw (.branchThen negate path))
      | .loop binder path => .ok (r.enter raw (.loopBody binder path))
      | .otherwise => r.divide
      | .close => r.close) >>= fun q => q.run ts := by
  rw [run, step, h]
  rfl

end Reading

namespace Node

open Reading

mutual

/-- On the tokens of a node the machine adds the node. -/
theorem run_tokens {n : Node} (hn : n.Printable) (r : Reading) (ts : List Token) :
    r.run (n.tokens ++ ts) = (r.append [n]).run ts := by
  match n with
  | .text t => rfl
  | .value path =>
      show (Template.readPath path >>= _) >>= _ = _
      rw [hn.readPath]
      rfl
  | .branch negate path thenPart elsePart =>
      obtain ⟨hpath, hthen, helse⟩ := hn
      rw [tokens, List.append_assoc, List.append_assoc, List.cons_append,
        run_evaluate r (parse_branch negate hpath)]
      show (r.enter _ (.branchThen negate path)).run _ = _
      rw [run_tokensAll hthen]
      match elsePart with
      | [] =>
          show Reading.run _ (.evaluate (spaced [endWord]) :: ts) = _
          rw [run_evaluate _ parse_endWord]
          rfl
      | m :: rest =>
          show Reading.run _ (.evaluate (spaced [elseWord]) ::
            (tokensAll (m :: rest) ++ .evaluate (spaced [endWord]) :: ts)) = _
          rw [run_evaluate _ parse_elseWord]
          show (r.enter _ (.branchElse negate path thenPart)).run _ = _
          rw [run_tokensAll helse, run_evaluate _ parse_endWord]
          rfl
  | .loop binder path body =>
      obtain ⟨hbinder, hpath, hbody⟩ := hn
      rw [tokens, List.append_assoc, List.cons_append,
        run_evaluate r (parse_loop hbinder hpath)]
      show (r.enter _ (.loopBody binder path)).run _ = _
      rw [run_tokensAll hbody, List.singleton_append, run_evaluate _ parse_endWord]
      rfl

theorem run_tokensAll {ns : List Node} (hns : AllPrintable ns) (r : Reading)
    (ts : List Token) : r.run (tokensAll ns ++ ts) = (r.append ns).run ts := by
  match ns with
  | [] => rw [append_nil]; rfl
  | n :: rest =>
      obtain ⟨hn, _, hrest⟩ := hns
      rw [tokensAll, List.append_assoc, run_tokens hn, run_tokensAll hrest,
        append_append]
      rfl

end

/-- A tree that a text can mean is read back from its standard spelling: the
spelling is cut, the tokens are read, and the tree is the same. -/
theorem parse_tokens_printAll {ns : List Node} (h : AllPrintable ns) :
    parse (Delimiters.standard.tokens (printAll ns)) = .ok ns := by
  have hcut := (cut_printAll h cutsAfterText_nil).1
  rw [List.append_nil, List.append_nil] at hcut
  have hrun := run_tokensAll h start []
  rw [List.append_nil] at hrun
  rw [Delimiters.tokens_of_cut hcut, parse_eq_resume, ← run_eq_resume, hrun]
  rfl

/-- A tree whose names are the words of directives and whose texts look like
closing brackets. -/
def keywordTree : List Node :=
  [.text "\x7d\x7d %]\n".toList,
    .branch true "if.in".toList
      [.loop "end".toList "loop.else".toList [.value "for.é-$".toList, .text ['%']]] [],
    .branch false "else".toList [] [.value "unless".toList],
    .value "end".toList]

theorem parse_tokens_printAll_keywordTree :
    AllPrintable keywordTree ∧
      parse (Delimiters.standard.tokens (printAll keywordTree)) = .ok keywordTree := by
  have h : AllPrintable keywordTree := by
    simp only [keywordTree, AllPrintable, Printable]
    decide
  exact ⟨h, parse_tokens_printAll h⟩

end Node

end Explainer.Template
