import Mathlib.Data.List.Infix

/-! The XML text of a suspicious activity report (`libs/screening/src/sar.rs`), and how it is read back. `to_xml` cannot
fail, and the bytes that it returns are the UTF-8 of the text. How a date is written is left to `format`. -/

set_option autoImplicit false

namespace Blazil.Screening

abbrev Text := List Char

inductive SuspiciousActivityType where
  | moneyLaundering
  | structuring
  | fraud
  | terroristFinancing
  | other

def SuspiciousActivityType.fincenCode : SuspiciousActivityType → String
  | moneyLaundering => "A"
  | structuring => "B"
  | fraud => "C"
  | terroristFinancing => "D"
  | other => "Z"

def SuspiciousActivityType.description : SuspiciousActivityType → String
  | moneyLaundering => "Money Laundering"
  | structuring => "Structuring"
  | fraud => "Fraud"
  | terroristFinancing => "Terrorist Financing"
  | other => "Other Suspicious Activity"

structure SarReport (DateTime : Type) where
  filingInstitution : String
  subjectId : String
  amount : UInt64
  currency : String
  suspiciousActivityType : SuspiciousActivityType
  narrative : String
  activityDate : DateTime
  filingDate : DateTime
  transactionId : String

def escapeChar : Char → Text
  | '&' => "&amp;".toList
  | '<' => "&lt;".toList
  | '>' => "&gt;".toList
  | '"' => "&quot;".toList
  | '\'' => "&apos;".toList
  | c => [c]

def escapeXml (s : String) : Text :=
  s.toList.flatMap escapeChar

/-- How a reader of XML resolves the five predefined entities. -/
def unescapeXml : Text → Text
  | '&' :: 'a' :: 'm' :: 'p' :: ';' :: rest => '&' :: unescapeXml rest
  | '&' :: 'l' :: 't' :: ';' :: rest => '<' :: unescapeXml rest
  | '&' :: 'g' :: 't' :: ';' :: rest => '>' :: unescapeXml rest
  | '&' :: 'q' :: 'u' :: 'o' :: 't' :: ';' :: rest => '"' :: unescapeXml rest
  | '&' :: 'a' :: 'p' :: 'o' :: 's' :: ';' :: rest => '\'' :: unescapeXml rest
  | c :: rest => c :: unescapeXml rest
  | [] => []

theorem escapeChar_plain {c written : Char} (member : written ∈ escapeChar c) : written ∉ "<>\"'".toList := by
  unfold escapeChar at member
  split at member
  all_goals simp_all
  all_goals grind

theorem unescapeXml_escapeChar (c : Char) (rest : Text) : unescapeXml (escapeChar c ++ rest) = c :: unescapeXml rest := by
  unfold escapeChar
  split <;> simp_all [unescapeXml]

theorem unescapeXml_flatMap (text : Text) : unescapeXml (text.flatMap escapeChar) = text := by
  induction text with
  | nil => rfl
  | cons c text ih => rw [List.flatMap_cons, unescapeXml_escapeChar, ih]

/-- `narrative.replace("]]>", "]]]]><![CDATA[>")`: from the left, without overlaps. -/
def safeNarrative : Text → Text
  | ']' :: ']' :: '>' :: rest => "]]]]><![CDATA[>".toList ++ safeNarrative rest
  | c :: rest => c :: safeNarrative rest
  | [] => []

/-- How a reader of XML takes in CDATA sections for as long as there are any: their text, and what is left. The flag says
whether it is inside one, which ends at the first `]]>`; there is no result if none comes. -/
def readSections : Bool → Text → Option (Text × Text)
  | true, ']' :: ']' :: '>' :: rest => readSections false rest
  | true, c :: rest => (readSections true rest).map fun (text, left) => (c :: text, left)
  | true, [] => none
  | false, '<' :: '!' :: '[' :: 'C' :: 'D' :: 'A' :: 'T' :: 'A' :: '[' :: rest => readSections true rest
  | false, left => some ([], left)

def ending : Text :=
  "</Narrative>\n</SuspiciousActivityReport>".toList

/-- The replacement never brings the end of a closing delimiter to the front. -/
theorem safeNarrative_head {text later left : Text} (same : safeNarrative text ++ ']' :: ']' :: later = ']' :: '>' :: left) :
    ∃ rest, text = ']' :: '>' :: rest := by
  unfold safeNarrative at same
  split at same
  · simp at same
  · unfold safeNarrative at same
    split at same <;> simp_all
  · simp at same

theorem readSections_safeNarrative (text : Text) :
    readSections true (safeNarrative text ++ ']' :: ']' :: '>' :: ending) = some (text, ending) := by
  fun_induction safeNarrative text with
  | case1 rest ih => simp [readSections, ih]
  | case2 c rest other ih =>
    rw [List.cons_append, readSections, ih]
    · rfl
    -- The character does not become the first one of a delimiter.
    intro left closing same
    obtain ⟨later, rfl⟩ := safeNarrative_head same
    exact other later closing rfl
  | case3 => rfl

def enclose (opening : String) (content : Text) (closing : String) : Text :=
  opening.toList ++ content ++ closing.toList

namespace SarReport

variable {DateTime : Type} (format : DateTime → String) (report : SarReport DateTime)

def details : List Text :=
  ["<?xml version=\"1.0\" encoding=\"UTF-8\"?>\n<SuspiciousActivityReport xmlns=\"urn:fincen:sar:2.0\">\n  ".toList,
    enclose "<FilingInstitution>" (escapeXml report.filingInstitution) "</FilingInstitution>",
    enclose "\n  <FilingDate>" (format report.filingDate).toList "</FilingDate>",
    enclose "\n  <ActivityDate>" (format report.activityDate).toList "</ActivityDate>\n  ",
    enclose "<TransactionIdentifier>" (escapeXml report.transactionId) "</TransactionIdentifier>",
    "\n  <Subject>\n    ".toList,
    enclose "<Identifier>" (escapeXml report.subjectId) "</Identifier>",
    "\n  </Subject>\n  ".toList,
    enclose "<Amount currency=\"" (escapeXml report.currency) "\">",
    enclose "" (toString report.amount).toList "</Amount>\n  ",
    enclose "<SuspiciousActivity code=\"" report.suspiciousActivityType.fincenCode.toList "\">",
    enclose "" report.suspiciousActivityType.description.toList "</SuspiciousActivity>\n  "]

def toXml : Text :=
  (report.details format).flatten ++ "<Narrative>".toList ++
    (enclose "<![CDATA[" (safeNarrative report.narrative.toList) "]]>" ++ ending)

def escapedFields : List (String × String × String) :=
  [("<FilingInstitution>", report.filingInstitution, "</FilingInstitution>"),
    ("<TransactionIdentifier>", report.transactionId, "</TransactionIdentifier>"),
    ("<Identifier>", report.subjectId, "</Identifier>"), ("<Amount currency=\"", report.currency, "\">")]

theorem toXml_reads_back : (∀ opening value closing, (opening, value, closing) ∈ report.escapedFields →
      enclose opening (escapeXml value) closing <:+: report.toXml format ∧
      (∀ c ∈ escapeXml value, c ∉ "<>\"'".toList) ∧ unescapeXml (escapeXml value) = value.toList) ∧
    ∃ content, report.toXml format = (report.details format).flatten ++ "<Narrative>".toList ++ (content ++ ending) ∧
      readSections false (content ++ ending) = some (report.narrative.toList, ending) := by
  constructor
  · intro opening value closing member
    refine ⟨?_, ?_, unescapeXml_flatMap _⟩
    · have placed : enclose opening (escapeXml value) closing ∈ report.details format := by
        simp only [escapedFields, List.mem_cons, Prod.mk.injEq, List.not_mem_nil, or_false] at member
        rcases member with ⟨rfl, rfl, rfl⟩ | ⟨rfl, rfl, rfl⟩ | ⟨rfl, rfl, rfl⟩ | ⟨rfl, rfl, rfl⟩ <;> simp [details]
      exact (List.infix_of_mem_flatten placed).trans ⟨[], _, (List.append_assoc _ _ _).symm⟩
    · intro c written
      obtain ⟨_, _, written⟩ := List.mem_flatMap.mp written
      exact escapeChar_plain written
  · refine ⟨_, rfl, ?_⟩
    rw [enclose, List.append_assoc]
    exact readSections_safeNarrative _

end SarReport

end Blazil.Screening
