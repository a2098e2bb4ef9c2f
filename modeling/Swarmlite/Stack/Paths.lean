import Swarmlite.Lib.Regexp
import Swarmlite.Stack.Generate
import Swarmlite.Stack.Validate

/-!
# Path matches and prefix rewrites

An exact or prefix match becomes a pattern (`path_pattern`), and a prefix
replacement a substitution (`rewrite_handlers`); the proxy evaluates both as RE2
expressions. `matchString_pathPattern_iff` reads the pattern back: behind the
escaped path comes nothing, or for a prefix a `/` and anything but a newline.

So a prefix match misses a path with a newline behind the prefix, which a request
can have once it is decoded. A replacement is right unless the prefix is `/`,
whose slash is replaced with it, or the replacement means something as a template.
-/

namespace Swarmlite

open Ordered Regexp

/-- What an exact or prefix match says. -/
def HttpPathMatch.meant (pathMatch : HttpPathMatch) (s : String) : Bool :=
  if pathMatch.kind = .exact then s = pathMatch.path
  else if pathMatch.path = "/" then Text.startsWith "/" s
  else s = pathMatch.path || Text.startsWith (pathMatch.path ++ "/") s

/-- The replacement, and the rest of the path behind a `/`. -/
def joined (replacement rest : String) : String :=
  Text.trimEndMatches '/' replacement ++
    if rest = "" ∨ Text.startsWith "/" rest then rest else "/" ++ rest

section Patterns

variable {tables : Tables} {m : HttpPathMatch} {s : String} {same : Char → Char → Bool}

def comparison (tables : Tables) (m : HttpPathMatch) : Char → Char → Bool :=
  if m.ignoreCase then tables.fold else (· == ·)

theorem parse_regexEscape (r : Regexp) (path tail : String) :
    parse none r (regexEscape path ++ tail).toList
      = parse none (chars r path.toList) tail.toList := by
  have hescaped : ∀ c ∈ "\\.+*?()|[]\x7b\x7d^$#&-~".toList, isPunctuation c := by
    simp [isPunctuation]
  have hmeta : ∀ c ∈ "\\.+*?()|[]\x7b\x7d^$".toList, c ∈ "\\.+*?()|[]\x7b\x7d^$#&-~".toList := by
    simp
  unfold regexEscape
  rw [String.toList_append, String.toList_ofList]
  refine parse_literals (fun c hc => hescaped c (List.contains_iff_mem.mp hc)) (fun c hc => ?_) _ r
  exact List.contains_iff_mem.mpr (hmeta c (List.contains_iff_mem.mp hc))

/-- The escaped path behind `^` is read as its characters. -/
theorem compile_escaped (tables : Tables) (m : HttpPathMatch) (tail : String) :
    compile tables (caseFlag m ++ "^" ++ regexEscape m.path ++ tail)
      = (parse none (chars (empty.cat bol) m.path.toList) tail.toList).map
          (·, comparison tables m) := by
  have hparse : parse none empty ("^" ++ (regexEscape m.path ++ tail)).toList
      = parse none (chars (empty.cat bol) m.path.toList) tail.toList := by
    rw [String.toList_append]
    exact parse_regexEscape (empty.cat bol) m.path tail
  have hplain : ¬ "(?i)".toList <+: ("^" ++ (regexEscape m.path ++ tail)).toList := by
    rw [String.toList_append]
    exact fun h => absurd (List.cons_prefix_cons.mp h).1 (by decide)
  rw [String.append_assoc, String.append_assoc, ← hparse]
  generalize "^" ++ (regexEscape m.path ++ tail) = text at hplain
  unfold compile caseFlag comparison Text.dropPrefix? Text.startsWith
  cases m.ignoreCase with
  | true => simp
  | false => simp [show ¬ ['(', '?', 'i', ')'] <+: text.toList from hplain]

/-- What may follow the path. -/
def Remains (tables : Tables) (m : HttpPathMatch) (rest : List Char) : Prop :=
  if m.kind = .exact then rest = []
  else if m.path = "/" then '\n' ∉ rest
  else rest = [] ∨ ∃ d rest', rest = d :: rest' ∧ comparison tables m '/' d ∧ '\n' ∉ rest'

/-- The path at the beginning, and behind it what the continuation takes. -/
theorem matchString_anchored {pattern : String} {p : List Char}
    {r : Regexp} {k : Continuation} {Q : List Char → Prop}
    (hcompile : compile tables pattern = some (r, same))
    (hrun : r.run same done = (chars (empty.cat bol) p).run same k)
    (hk : ∀ start rest, (k start rest).isSome ↔ Q rest) :
    ∃ found, matchString tables pattern s = some found ∧ (found = true ↔ ∃ t rest,
      s.toList = t ++ rest ∧ List.Forall₂ (fun c d => same c d = true) p t ∧ Q rest) := by
  have hanchored : ∀ s, r.run same done false s = none := fun s => hrun ▸ run_anchored_none s
  refine ⟨search same r true s.toList, by rw [matchString, hcompile]; rfl, ?_⟩
  rw [search_anchored hanchored, hrun, Option.isSome_iff_exists]
  simp only [← hk p.isEmpty, Option.isSome_iff_exists]
  constructor
  · intro h
    obtain ⟨x, hx⟩ := h
    obtain ⟨-, t, rest, hs, hall, hrest⟩ := run_anchored_iff.mp hx
    exact ⟨t, rest, hs, hall, x, hrest⟩
  · intro h
    obtain ⟨t, rest, hs, hall, x, hrest⟩ := h
    exact ⟨x, run_anchored_iff.mpr ⟨rfl, t, rest, hs, hall, hrest⟩⟩

theorem run_eol_isSome (start : Bool) (rest : List Char) :
    (eol.run same done start rest).isSome ↔ rest = [] := by
  simp [run, done]

/-- The pattern of an exact or prefix match, read back. -/
theorem matchString_pathPattern (s : String) (hkind : m.kind ≠ .regex) :
    ∃ found, matchString tables (pathPattern m) s = some found ∧ (found = true ↔ ∃ t rest,
      s.toList = t ++ rest ∧ List.Forall₂ (fun c d => comparison tables m c d = true)
        m.path.toList t ∧ Remains tables m rest) := by
  unfold pathPattern Remains
  cases hm : m.kind with
  | regex => exact absurd hm hkind
  | exact =>
    simp only [if_true]
    exact matchString_anchored (compile_escaped tables m "$") rfl run_eol_isSome
  | pathPrefix =>
    simp only [reduceCtorEq, if_false]
    split
    next hroot =>
      have hcompile := compile_escaped tables m ".*$"
      have htext : "^" ++ (regexEscape "/" ++ ".*$") = "^/.*$" := by decide +kernel
      rw [hroot, String.append_assoc, String.append_assoc, htext] at hcompile
      rw [hroot]
      exact matchString_anchored hcompile rfl dotsThen_isSome
    · refine matchString_anchored (compile_escaped tables m "(?:/.*)?$") rfl fun start rest => ?_
      show ((((empty.cat (char '/')).cat dots).run (comparison tables m)
        (eol.run (comparison tables m) done) start rest).or _).isSome ↔ _
      rw [Option.isSome_or, Bool.or_eq_true, run_eol_isSome, or_comm]
      refine or_congr_right ?_
      cases rest with
      | nil => simp [run]
      | cons d rest =>
        show (if _ then dotsThen (eol.run _ done) false rest else none).isSome ↔ _
        have hdots : (dotsThen (eol.run (comparison tables m) done) false rest).isSome ↔ '\n' ∉ rest :=
          dotsThen_isSome false rest
        split
        next hsame => simp [hdots, hsame]
        next hsame => simp [hsame]

theorem startsWith_slash_iff (base s : String) :
    Text.startsWith (base ++ "/") s ↔ ∃ rest, s.toList = base.toList ++ '/' :: rest := by
  unfold Text.startsWith
  rw [List.isPrefixOf_iff_prefix, String.toList_append]
  refine exists_congr fun rest => ?_
  rw [List.append_assoc]
  exact eq_comm

/-- With and without a newline behind the slash. -/
theorem newline_iff {E : Prop} {base s : List Char} (hE : E → ∀ rest, s ≠ base ++ '/' :: rest) :
    ((E ∨ ∃ rest, s = base ++ '/' :: rest ∧ '\n' ∉ rest) ↔ (E ∨ ∃ rest, s = base ++ '/' :: rest)) ↔
      ¬ ∃ rest, '\n' ∈ rest ∧ s = base ++ '/' :: rest := by
  constructor
  · intro h hline
    obtain ⟨rest, hmem, hs⟩ := hline
    rcases h.mpr (.inr ⟨rest, hs⟩) with he | ⟨rest', hs', hnot⟩
    · exact hE he rest hs
    · obtain rfl := (List.cons.inj (List.append_cancel_left (hs.symm.trans hs'))).2
      exact hnot hmem
  · intro h
    refine or_congr_right (exists_congr fun rest => and_iff_left_of_imp fun hs hmem => ?_)
    exact h ⟨rest, hmem, hs⟩

/-- **A pattern matches what the match says** but for prefix matches of paths with a newline behind
the prefix. -/
theorem path_pattern_meant_iff (hkind : m.kind ≠ .regex) (hcase : m.ignoreCase = false)
    (tables : Tables) (s : String) :
    matchString tables (pathPattern m) s = some (m.meant s) ↔
      ¬ (m.kind = .pathPrefix ∧ ∃ rest, '\n' ∈ rest ∧
        s.toList = (if m.path = "/" then [] else m.path.toList) ++ '/' :: rest) := by
  obtain ⟨found, hfou, hread⟩ := matchString_pathPattern s hkind
  rw [hfou, Option.some_inj, Bool.eq_iff_iff, hread]
  -- without case folding the path itself is read
  unfold HttpPathMatch.meant Remains comparison
  simp only [hcase, Bool.false_eq_true, if_false, beq_iff_eq, List.forall₂_eq_eq_eq]
  cases hm : m.kind with
  | regex => exact absurd hm hkind
  | exact => simp [String.toList_inj]
  | pathPrefix =>
    simp only [reduceCtorEq, if_false, true_and]
    split
    next hroot =>
      refine Iff.trans (iff_congr ?_ ?_) (newline_iff (E := False) (fun h => h.elim))
      · simp [hroot]
      · rw [false_or]
        exact startsWith_slash_iff "" s
    · refine Iff.trans (iff_congr ?_ ?_) (newline_iff (E := s.toList = m.path.toList) fun h rest => ?_)
      · constructor
        · intro h
          obtain ⟨_, rest, hs, rfl, rfl | ⟨d, rest, rfl, rfl, hline⟩⟩ := h
          · exact .inl (by simpa using hs)
          · exact .inr ⟨rest, hs, hline⟩
        · intro h
          rcases h with hs | ⟨rest, hs, hline⟩
          · exact ⟨_, [], by simpa using hs, rfl, .inl rfl⟩
          · exact ⟨_, _, hs, rfl, .inr ⟨_, rest, rfl, rfl, hline⟩⟩
      · rw [Bool.or_eq_true, decide_eq_true_eq, startsWith_slash_iff, String.toList_inj]
      · simp [h]

end Patterns

/-- Tables without case variants. -/
def asciiTables : Tables := ⟨(· == ·), Char.isAlphanum, by simp⟩

theorem exact_pattern_meant :
    matchString asciiTables (pathPattern { path := "/a+b", kind := .exact }) "/a+b\n"
      = some (HttpPathMatch.meant { path := "/a+b", kind := .exact } "/a+b\n") :=
  (path_pattern_meant_iff (by decide) rfl asciiTables _).mpr fun h => nomatch h.1

/-- A decoded newline passes by a prefix match. -/
theorem newline_bypasses_prefix :
    (∀ libraries, normalizePathMatch libraries { path := "/admin" } = .ok { path := "/admin" }) ∧
    matchString asciiTables (pathPattern { path := "/admin" }) "/admin/x\n" = some false :=
  ⟨fun _ => rfl, by decide +kernel⟩

/-! ## Prefix replacement -/

section Rewrites

variable {libraries : StackLibraries} {services : Map String ServiceSpec} {name r : String}
  {given rule : HttpRouteRule} {rewrite : HttpPathRewrite} {m : HttpPathMatch} {tables : Tables}
  {s : String}

/-- A rule with a prefix replacement has no other rewrite, and only prefix matches. -/
theorem normalizeRule_replacePrefix (hrule : normalizeRule libraries services name given = .ok rule)
    (hrewrite : rule.rewrite = some rewrite) (hr : rewrite.replacePrefix = some r) :
    rewrite.stripPrefix = false ∧ rewrite.replacePath = none ∧
      ∀ m ∈ rule.pathMatches, m.kind = .pathPrefix := by
  unfold normalizeRule at hrule
  obtain ⟨pathMatches, -, hrule⟩ := Loop.bind_ok hrule
  obtain ⟨_, hvalid, hrule⟩ := Loop.bind_ok hrule
  obtain ⟨-, -, hrule⟩ := Loop.bind_ok hrule
  obtain ⟨backend, -, hrule⟩ := Loop.bind_ok hrule
  cases hrule
  dsimp only at hrewrite
  have hvalid := withContext_ok hvalid
  rw [hrewrite] at hvalid
  unfold validateRewrite at hvalid
  obtain ⟨_, hcount, hvalid⟩ := Loop.bind_ok hvalid
  have hcount := beq_iff_eq.mp (Loop.ensure_ok hcount)
  simp only [hr, Option.isSome_some, Bool.or_true, if_true] at hcount hvalid
  obtain ⟨_, -, hvalid⟩ := Loop.bind_ok hvalid
  obtain ⟨_, hkinds, -⟩ := Loop.bind_ok hvalid
  have hkinds := Loop.ensure_ok hkinds
  refine ⟨?_, ?_, fun m hm => ?_⟩
  · cases hstrip : rewrite.stripPrefix with
    | false => rfl
    | true =>
      simp only [hstrip, Bool.toNat_true] at hcount
      omega
  · cases hpath : rewrite.replacePath with
    | none => rfl
    | some path => simp [hpath] at hcount
  · exact of_decide_eq_true (List.all_eq_true.mp hkinds m hm)

theorem comparison_slash {d : Char} (h : comparison tables m '/' d = true) : d = '/' := by
  unfold comparison at h
  split at h
  · exact tables.fold_ascii '/' d (by decide) (by decide) h
  · exact (beq_iff_eq.mp h).symm

/-- The substitution puts the expanded replacement in the place of the prefix. -/
theorem replaceAllString_leading {t rest : List Char} (template : String) (hs : s.toList = t ++ rest)
    (hall : List.Forall₂ (fun c d => comparison tables m c d = true) m.path.toList t) :
    replaceAllString tables (caseFlag m ++ "^" ++ regexEscape m.path) template s
      = some (String.ofList (expand tables t template.toList ++ rest)) := by
  have hcompile := compile_escaped tables m ""
  rw [String.append_empty] at hcompile
  unfold replaceAllString
  rw [hcompile, hs]
  exact congrArg (some ∘ String.ofList) (replaceLoop_run run_anchored_none _
    (run_anchored_iff.mpr ⟨rfl, t, rest, rfl, hall, rfl⟩))

/-- What stands behind the prefix begins with a slash, but for the prefix `/`. -/
theorem root_slashed_iff {t rest : List Char} (hkind : m.kind = .pathPrefix)
    (hs : s.toList = t ++ rest) (hrest : Remains tables m rest)
    (hall : List.Forall₂ (fun c d => comparison tables m c d = true) m.path.toList t) :
    (m.path = "/" → s = "/" ∨ Text.startsWith "//" s) ↔
      (String.ofList rest = "" ∨ Text.startsWith "/" (String.ofList rest)) := by
  have hslash : Text.startsWith "/" (String.ofList rest) ↔ ∃ rest', rest = '/' :: rest' := by
    simpa using startsWith_slash_iff "" (String.ofList rest)
  rw [hslash, String.ofList_eq_empty_iff]
  by_cases hp : m.path = "/"
  · rw [hp] at hall
    obtain ⟨d, _, hd, hnil, ht⟩ := List.forall₂_cons_left_iff.mp hall
    rw [comparison_slash hd, List.forall₂_nil_left_iff.mp hnil] at ht
    rw [forall_prop_of_true hp]
    refine or_congr ?_ ((startsWith_slash_iff "/" s).trans (exists_congr fun rest' => ?_))
    · rw [← String.toList_inj, hs, ht]
      simp
    · simp [hs, ht]
  · rw [forall_prop_of_false hp, true_iff]
    unfold Remains at hrest
    rw [if_neg (by simp [hkind]), if_neg hp] at hrest
    rcases hrest with rfl | ⟨d, rest', rfl, hd, -⟩
    · exact .inl rfl
    · exact .inr ⟨rest', by rw [comparison_slash hd]⟩

/-- **A replaced prefix is replaced by components**, but for the prefix `/` in front of a name, and
for replacements that mean something else as templates. -/
theorem prefix_replaced_iff (hrule : normalizeRule libraries services name given = .ok rule)
    (hrewrite : rule.rewrite = some rewrite) (hr : rewrite.replacePrefix = some r)
    (hm : m ∈ rule.pathMatches) (hmatches : matchString tables (pathPattern m) s = some true) :
    (∃ find replace, rewriteHandlers (some rewrite) (some m) = [.rewritePathRegexp find replace] ∧
      replaceAllString tables find replace s
        = some (joined r (String.ofList (s.toList.drop m.path.toList.length)))) ↔
    (m.path = "/" → s = "/" ∨ Text.startsWith "//" s) ∧
      expand tables (s.toList.take m.path.toList.length) (Text.trimEndMatches '/' r).toList
        = (Text.trimEndMatches '/' r).toList := by
  obtain ⟨hstr, hpath, hkin⟩ := normalizeRule_replacePrefix hrule hrewrite hr
  have hkind := hkin m hm
  have hpla : m.kind ≠ .regex := by
    rw [hkind]
    decide
  obtain ⟨found, hfou, hread⟩ := matchString_pathPattern s hpla
  obtain rfl := Option.some_inj.mp (hfou.symm.trans hmatches)
  obtain ⟨t, rest, hs, hall, hrest⟩ := hread.mp rfl
  have hleng : m.path.toList.length = t.length := hall.length_eq
  have htrim : (if r = "/" then "" else Text.trimEndMatches '/' r) = Text.trimEndMatches '/' r := by
    split
    next h =>
      rw [h]
      decide +kernel
    · rfl
  have hhan : rewriteHandlers (some rewrite) (some m) = [.rewritePathRegexp
      (caseFlag m ++ "^" ++ regexEscape m.path) (Text.trimEndMatches '/' r)] := by
    simp [rewriteHandlers, hpath, hstr, hr, htrim]
  rw [root_slashed_iff hkind hs hrest hall, hhan, hs, hleng, List.drop_left, List.take_left]
  generalize hrest' : joined r (String.ofList rest) = out
  have hrep : (∃ find replace, [Handler.rewritePathRegexp (caseFlag m ++ "^" ++ regexEscape m.path)
      (Text.trimEndMatches '/' r)] = [.rewritePathRegexp find replace] ∧
      replaceAllString tables find replace s = some out) ↔
      expand tables t (Text.trimEndMatches '/' r).toList ++ rest = out.toList := by
    constructor
    · intro h
      obtain ⟨_, _, heq, hout⟩ := h
      cases heq
      rw [replaceAllString_leading _ hs hall, Option.some_inj] at hout
      rw [← hout, String.toList_ofList]
    · intro h
      refine ⟨_, _, rfl, ?_⟩
      rw [replaceAllString_leading _ hs hall, h, String.ofList_toList]
  rw [hrep, ← hrest']
  unfold joined
  generalize Text.trimEndMatches '/' r = template
  rw [String.toList_append]
  split
  next hsla =>
    rw [String.toList_ofList, List.append_left_inj]
    exact (and_iff_right hsla).symm
  next hsla =>
    -- the prefix is one slash, and no template makes another one of it
    refine iff_of_false (fun h => ?_) fun h => hsla h.1
    have hp : m.path = "/" := not_not.mp fun hp =>
      hsla ((root_slashed_iff hkind hs hrest hall).mp fun h => absurd h hp)
    have ht : t.length ≤ 1 := by
      rw [← hleng, hp]
      decide
    have hlen := congrArg List.length h
    have hexp := expand_length tables ht template.toList
    simp only [List.length_append, String.toList_append, String.toList_ofList] at hlen
    have hone : "/".toList.length = 1 := by decide
    omega

end Rewrites

/-- Everything under the prefix goes under another one. -/
def movingRule (path replacement : String) : HttpRouteRule :=
  { pathMatches := [{ path }]
    rewrite := some { replacePrefix := some replacement }
    backend := { host := some "10.0.0.9", port := 80 } }

theorem movingRule_replaced :
    ∃ find replace, rewriteHandlers (movingRule "/old" "/new/").rewrite (some { path := "/old" })
        = [.rewritePathRegexp find replace] ∧
      replaceAllString asciiTables find replace "/old/x" = some (joined "/new/" "/x") := by
  have hrule : normalizeRule plainLibraries Table.empty "" (movingRule "/old" "/new/")
      = .ok (movingRule "/old" "/new/") := rfl
  exact (prefix_replaced_iff hrule rfl rfl (List.mem_singleton.mpr rfl) (by decide +kernel)).mpr
    (by decide +kernel)

/-- The slash of `/` is lost, and `$0` is the prefix that was to be replaced. -/
theorem root_prefix_joins_names :
    normalizeRule plainLibraries Table.empty "" (movingRule "/" "/new")
      = .ok (movingRule "/" "/new") ∧
    rewriteHandlers (movingRule "/" "/new").rewrite (some { path := "/" })
      = [.rewritePathRegexp "^/" "/new"] ∧
    replaceAllString asciiTables "^/" "/new" "/x" = some "/newx" ∧
    rewriteHandlers (movingRule "/old" "/a$0").rewrite (some { path := "/old" })
      = [.rewritePathRegexp "^/old" "/a$0"] ∧
    replaceAllString asciiTables "^/old" "/a$0" "/old/x" = some "/a/old/x" := by
  decide +kernel

end Swarmlite
