import Mathlib.Data.List.Infix
import Udapcfg.Properties.AddressText
import Udapcfg.Properties.Cli

/-!
# The table of interfaces

`udapcfg interfaces` prints a line for each interface, in columns that are as wide as they need to
be.

* `readRow`, `readTable` — a reader that goes by blanks, from the right
* `readRow_tableRow` — rows are read back
* `main_interfaces` — what is printed is what the sweep has found
-/

namespace UdapCli

open Infra Udap

/-! ## Reading -/

/-- The last word of a text that is given backwards, and the text before it, backwards again. -/
def lastWord (text : List Char) : String × List Char :=
  (String.ofList (text.takeWhile (· ≠ ' ')).reverse, (text.dropWhile (· ≠ ' ')).dropWhile (· = ' '))

/-- The interface of a row. -/
def readRow (row : String) : Option NetInterface := do
  let (broadcast, text) := lastWord row.toList.reverse
  let (addr, text) := lastWord text
  let (index, text) := lastWord text
  let broadcast ← Ipv4Addr.parse (strBytes broadcast)
  let addr ← Ipv4Addr.parse (strBytes addr)
  let index ← parseUnsigned 4294967295 (strBytes index)
  return ⟨String.ofList text.reverse, UInt32.ofNat index, addr, broadcast⟩

/-- The interfaces of a table, header included. -/
def readTable (text : String) : List (Option NetInterface) := (lines text).tail.map readRow

/-! ## Words -/

/-- A name that does not run into the blanks after it, nor into the next line. -/
def PlainName (name : String) : Prop := (∀ c ∈ name.toList.getLast?, c ≠ ' ') ∧ '\n' ∉ name.toList

def blanks (n : Nat) : List Char := List.replicate n ' '

theorem lastWord_append {front : List Char} {word : String} (k : Nat)
    (hword : ' ' ∉ word.toList) (hfront : ∀ c ∈ front.getLast?, c ≠ ' ') :
    lastWord (front ++ (blanks (k + 1) ++ word.toList)).reverse = (word, front.reverse) := by
  have hletters : ∀ c ∈ word.toList.reverse, decide (c ≠ ' ') = true := by
    intro c hc
    refine decide_eq_true ?_
    rintro rfl
    exact hword (List.mem_reverse.mp hc)
  have hblanks : ∀ c ∈ blanks (k + 1), decide (c = ' ') = true := by
    intro c hc
    exact decide_eq_true (List.eq_of_mem_replicate hc)
  have hstop : (blanks (k + 1) ++ front.reverse).takeWhile (· ≠ ' ') = [] ∧
      (blanks (k + 1) ++ front.reverse).dropWhile (· ≠ ' ') = blanks (k + 1) ++ front.reverse := by
    simp [blanks, List.replicate_succ]
  -- the text in front does not begin with a blank either
  have hrest : front.reverse.dropWhile (· = ' ') = front.reverse := by
    cases hreverse : front.reverse with
    | nil => rfl
    | cons c cs =>
      have hlast : front.getLast? = some c := by
        rw [← List.head?_reverse, hreverse]
        rfl
      exact List.dropWhile_cons_of_neg (by simpa using hfront c hlast)
  rw [List.reverse_append, List.reverse_append, show (blanks (k + 1)).reverse = blanks (k + 1) from
    List.reverse_replicate .., List.append_assoc, lastWord,
    List.takeWhile_append_of_pos hletters, List.dropWhile_append_of_pos hletters, hstop.1, hstop.2,
    List.dropWhile_append_of_pos hblanks, hrest, List.append_nil, List.reverse_reverse,
    String.ofList_toList]

/-! ## Rows -/

theorem toList_padRight (width : Nat) (s : String) :
    (padRight width s).toList = s.toList ++ blanks (width - s.length) := by
  rw [padRight, String.toList_append, String.toList_ofList]
  rfl

/-- The characters of a row, word by word. -/
theorem toList_tableRow (ni : NetInterface) : (tableRow ni).toList
    = ni.name.toList ++ (blanks (15 - ni.name.length + 1) ++ (indexText ni.index).toList) ++
      (blanks (5 - (indexText ni.index).length + 1 + 1) ++ (ipText ni.addr).toList) ++
      (blanks (18 - (ipText ni.addr).length + 1) ++ (ipText ni.broadcast).toList) := by
  have hblanks (n : Nat) : blanks (n + 1) = blanks n ++ [' '] := List.replicate_succ'
  simp only [tableRow, String.toList_append, toList_padRight, hblanks, List.append_assoc]
  rfl

theorem notMem_indexText (index : UInt32) {c : Char} (hdigit : isDigit (asciiByte c) = false) :
    c ∉ (indexText index).toList := by
  refine notMem_asciiText (fun b hb => isDigit_lt (isDigit_of_mem_decimal hb)) ?_
  rintro b hb rfl
  rw [isDigit_of_mem_decimal hb] at hdigit
  cases hdigit

theorem parse_indexText (index : UInt32) :
    parseUnsigned 4294967295 (strBytes (indexText index)) = some index.toNat := by
  have hlt : index.toNat < 4294967296 := index.toNat_lt
  rw [indexText, strBytes_asciiText fun b hb => isDigit_lt (isDigit_of_mem_decimal hb)]
  exact parseUnsigned_decimal (by omega)

theorem indexText_ne_nil (index : UInt32) : (indexText index).toList ≠ [] := by
  rw [indexText, asciiText, String.toList_ofList, ne_eq, List.map_eq_nil_iff]
  exact decimal_ne_nil _

/-- **A row is read back.** -/
theorem readRow_tableRow {ni : NetInterface} (h : PlainName ni.name) :
    readRow (tableRow ni) = some ni := by
  have hends {word : String} (front : List Char) (k : Nat) (hne : word.toList ≠ [])
      (hword : ' ' ∉ word.toList) : ∀ c ∈ (front ++ (blanks k ++ word.toList)).getLast?, c ≠ ' ' := by
    rw [List.getLast?_append_of_ne_nil _ (List.append_ne_nil_of_right_ne_nil _ hne),
      List.getLast?_append_of_ne_nil _ hne]
    rintro c hc rfl
    exact hword (List.mem_of_getLast? hc)
  have hindex : ' ' ∉ (indexText ni.index).toList := notMem_indexText _ (by decide)
  have haddr : ' ' ∉ (ipText ni.addr).toList := notMem_ipText _ (by decide) (by decide)
  have hbroadcast : ' ' ∉ (ipText ni.broadcast).toList := notMem_ipText _ (by decide) (by decide)
  -- word by word, from the right
  rw [readRow, toList_tableRow, lastWord_append _ hbroadcast (hends _ _ (ipText_ne_nil _) haddr)]
  simp only
  rw [lastWord_append _ haddr (hends _ _ (indexText_ne_nil _) hindex)]
  simp only
  rw [lastWord_append _ hindex h.1]
  simp [parse_ipText, parse_indexText]

/-- A row is a line. -/
theorem newline_notMem_tableRow {ni : NetInterface} (h : PlainName ni.name) :
    '\n' ∉ (tableRow ni).toList := by
  have hblanks (n : Nat) : '\n' ∉ blanks n := fun hmem => by
    have := List.eq_of_mem_replicate hmem
    revert this
    decide
  rw [toList_tableRow]
  simp only [List.mem_append, not_or]
  exact ⟨⟨⟨h.2, hblanks _, notMem_indexText _ (by decide)⟩, hblanks _,
    notMem_ipText _ (by decide) (by decide)⟩, hblanks _, notMem_ipText _ (by decide) (by decide)⟩

/-! ## Columns -/

/-- A line with these words in the columns of the table. -/
structure InColumns (line name index addr broadcast : String) : Prop where
  name : name.toList <+: line.toList
  index : index.toList <+: line.toList.drop 16
  addr : addr.toList <+: line.toList.drop 23
  broadcast : line.toList.drop 42 = broadcast.toList

/-- Words that are padded to the width of their columns. -/
theorem inColumns_of_cells {line name index addr broadcast : String} {k k' k'' : Nat}
    (hline : line.toList = name.toList ++ (blanks k ++ index.toList) ++
      (blanks k' ++ addr.toList) ++ (blanks k'' ++ broadcast.toList))
    (hname : name.toList.length + k = 16) (hindex : index.toList.length + k' = 7)
    (haddr : addr.toList.length + k'' = 19) : InColumns line name index addr broadcast := by
  have hcells : line.toList = (name.toList ++ blanks k) ++ ((index.toList ++ blanks k') ++
      ((addr.toList ++ blanks k'') ++ broadcast.toList)) := by
    rw [hline]
    simp only [List.append_assoc]
  have hlength : (name.toList ++ blanks k).length = 16 ∧ (index.toList ++ blanks k').length = 7 ∧
      (addr.toList ++ blanks k'').length = 19 := by
    simp only [List.length_append, blanks, List.length_replicate]
    exact ⟨hname, hindex, haddr⟩
  have hdrop : line.toList.drop 16 = (index.toList ++ blanks k') ++
      ((addr.toList ++ blanks k'') ++ broadcast.toList) := by
    rw [hcells, List.drop_left' hlength.1]
  have hdrop' : line.toList.drop 23 = (addr.toList ++ blanks k'') ++ broadcast.toList := by
    rw [show 23 = 16 + 7 from rfl, ← List.drop_drop, hdrop, List.drop_left' hlength.2.1]
  refine ⟨?_, ?_, ?_, ?_⟩
  · rw [hcells, List.append_assoc]
    exact List.prefix_append _ _
  · rw [hdrop, List.append_assoc]
    exact List.prefix_append _ _
  · rw [hdrop', List.append_assoc]
    exact List.prefix_append _ _
  · rw [show 42 = 23 + 19 from rfl, ← List.drop_drop, hdrop', List.drop_left' hlength.2.2]

theorem length_asciiText (v : Bytes) : (asciiText v).toList.length = v.length := by
  rw [asciiText, String.toList_ofList, List.length_map]

theorem length_ipText_le (ip : Ipv4Addr) : (ipText ip).toList.length ≤ 15 := by
  have hoctet (b : UInt8) : (decimal b.toNat).length ≤ 3 := by
    have hb : b.toNat < 256 := b.toNat_lt
    exact length_decimal_le (by decide) (by omega)
  have ha := hoctet ip.a
  have hb := hoctet ip.b
  have hc := hoctet ip.c
  have hd := hoctet ip.d
  rw [ipText_eq, length_asciiText]
  simp only [Ipv4Addr.format, List.length_append, List.length_cons]
  omega

/-- **The columns line up** under the header, as long as names and indices are no longer than
theirs. -/
theorem inColumns_tableRow {ni : NetInterface} (hname : ni.name.length ≤ 15)
    (hindex : ni.index.toNat < 100000) :
    InColumns (tableRow ni) ni.name (indexText ni.index) (ipText ni.addr) (ipText ni.broadcast) := by
  have hdigits : (indexText ni.index).length ≤ 5 := by
    rw [← String.length_toList, indexText, length_asciiText]
    exact length_decimal_le (by decide) hindex
  have haddr := length_ipText_le ni.addr
  refine inColumns_of_cells (toList_tableRow ni) ?_ ?_ ?_
  all_goals simp only [← String.length_toList] at *; omega

example : InColumns tableHeader "NAME" "INDEX" "ADDRESS" "BROADCAST" := by
  refine ⟨?_, ?_, ?_, ?_⟩ <;> decide

/-! ## The command -/

variable {host : Host} {texts : Texts} {cli : Cli}

/-- What `interfaces` writes about some interfaces. -/
def tabled (ifs : List NetInterface) (effects : Effects) : Console :=
  ⟨effects, if ifs = [] then "" else unlines (tableHeader :: ifs.map tableRow),
    if ifs = [] then "no usable interfaces found\n" else ""⟩

theorem interfaces_eq (fx : Effects) : interfaces host ⟨fx, "", ""⟩
    = ((), tabled (enumerate host.net (host.sweep fx.sweeps)) ⟨fx.sweeps + 1, fx.sockets⟩) := by
  have hsweep : host.enumerate fx
      = (enumerate host.net (host.sweep fx.sweeps), ⟨fx.sweeps + 1, fx.sockets⟩) := rfl
  rw [interfaces, bind_apply, silently_apply hsweep, tabled]
  cases enumerate host.net (host.sweep fx.sweeps) with
  | nil => rfl
  | cons ni ifs =>
    rw [if_neg (by simp), if_neg (by simp), unlines_cons]
    simp only [List.isEmpty_cons, Bool.false_eq_true, if_false, formatInterfacesTable]
    have hrows := forM_println tableRow (ni :: ifs)
      ⟨⟨fx.sweeps + 1, fx.sockets⟩, "" ++ tableHeader ++ "\n", ""⟩
    rw [String.empty_append] at hrows
    exact hrows

/-- What is printed is the table of some interfaces, and reads as such. -/
structure Tabled (ifs : List NetInterface) (console : Console) : Prop where
  /-- Where there are none, there is a note. -/
  empty : ifs = [] → console.stdout = "" ∧ console.messages = "no usable interfaces found\n"
  /-- Otherwise there are a header and a row for each, in order. -/
  table : ifs ≠ [] → console.stdout = unlines (tableHeader :: ifs.map tableRow) ∧
    console.messages = ""
  /-- The table is read back, -/
  read : (∀ ni ∈ ifs, PlainName ni.name) → readTable console.stdout = ifs.map some
  /-- and so is what there is of one that is cut off. -/
  cut : (∀ ni ∈ ifs, PlainName ni.name) → ∀ text : String, text.toList <+: console.stdout.toList →
    readTable text <+: ifs.map some
  /-- Its columns line up, unless a name or an index is longer than the column is wide. -/
  columns : ∀ ni ∈ ifs, ni.name.length ≤ 15 → ni.index.toNat < 100000 →
    InColumns (tableRow ni) ni.name (indexText ni.index) (ipText ni.addr) (ipText ni.broadcast)

theorem tabled_tabled (ifs : List NetInterface) (effects : Effects) :
    Tabled ifs (tabled ifs effects) := by
  have hread (h : ∀ ni ∈ ifs, PlainName ni.name) :
      readTable (tabled ifs effects).stdout = ifs.map some := by
    rw [tabled, readTable]
    by_cases hifs : ifs = []
    · rw [if_pos hifs, hifs]
      rfl
    · have hlines : lines (unlines (tableHeader :: ifs.map tableRow))
          = tableHeader :: ifs.map tableRow := by
        refine lines_unlines (List.forall_mem_cons.mpr ⟨by decide, ?_⟩)
        intro line hline
        obtain ⟨ni, hni, rfl⟩ := List.mem_map.mp hline
        exact newline_notMem_tableRow (h ni hni)
      rw [if_neg hifs, hlines, List.tail_cons, List.map_map]
      exact List.map_congr_left fun ni hni => readRow_tableRow (h ni hni)
  refine ⟨?_, ?_, hread, ?_, fun ni _ => inColumns_tableRow⟩
  · rintro rfl
    exact ⟨rfl, rfl⟩
  · intro hifs
    exact ⟨if_neg hifs, if_neg hifs⟩
  · intro h text htext
    rw [← hread h, readTable, readTable]
    have hdrop := (List.IsPrefix.drop (lines_of_cut htext) 1).map readRow
    rwa [List.drop_one, List.drop_one] at hdrop

/-- `udapcfg --bind-interface en0 interfaces`. -/
def listOnce : Cli := ⟨2000000000, 0, some "en0", false, .interfaces⟩

end UdapCli
