import TenderQuery.Fallback.Rule

/-!
# The rules for tenders

The most specific rules come first and the rule for every question comes last. Statuses are free text, so
a positive status is told by any of several spellings. A year limits the opening, return or creation date.
-/
set_option autoImplicit false
namespace TenderQuery.Fallback

/-! ## Parts of statements -/

def notDeleted : String := "(IsDeleted = 0 OR IsDeleted IS NULL)"

def positiveStatus : String :=
  "(Status LIKE '%approved%' OR Status LIKE '%awarded%' OR Status LIKE '%won%'" ++
  " OR Status LIKE '%success%' OR Status LIKE '%accepted%')"

def inYear : String :=
  "(YEAR(OpenDate) = \x7byear\x7d OR YEAR(ReturnDate) = \x7byear\x7d OR YEAR(CreatedAt) = \x7byear\x7d)"

def tenderColumns : String := "ProjectName, Value, Status, Type, OpenDate"

/-! ## Conditions -/

def asksBiggest : Condition := .mentions ["biggest", "largest", "highest value", "most valuable"]

def asksPositive : Condition := .mentions ["approved", "awarded", "won", "successful", "accepted"]

def asksRecent : Condition := .mentions ["recent", "latest", "newest"]

def asksCount : Condition := .mentions ["count", "how many", "number of"]

def asksUsers : Condition := .mentions ["user", "employee"]

def asksContacts : Condition := .mentions ["contact"]

def asksCompanies : Condition := .mentions ["company", "companies"]

/-! ## Rules -/

def biggestPositiveInYear : Rule where
  name := "biggest_positive_in_year"
  condition := .both asksBiggest (.both asksPositive .namesYear)
  template := "SELECT TOP 1 " ++ tenderColumns ++ ", ReturnDate FROM tenderTender WHERE " ++ notDeleted ++
    " AND " ++ positiveStatus ++ " AND " ++ inYear ++ " ORDER BY Value DESC"

def biggestPositive : Rule where
  name := "biggest_positive"
  condition := .both asksBiggest asksPositive
  template := "SELECT TOP 1 " ++ tenderColumns ++ " FROM tenderTender WHERE " ++ notDeleted ++
    " AND " ++ positiveStatus ++ " ORDER BY Value DESC"

def biggestInYear : Rule where
  name := "biggest_in_year"
  condition := .both asksBiggest .namesYear
  template := "SELECT TOP 1 " ++ tenderColumns ++ ", ReturnDate FROM tenderTender WHERE " ++ notDeleted ++
    " AND " ++ inYear ++ " ORDER BY Value DESC"

def biggest : Rule where
  name := "biggest"
  condition := asksBiggest
  template := "SELECT TOP 1 " ++ tenderColumns ++ " FROM tenderTender WHERE " ++ notDeleted ++
    " ORDER BY Value DESC"

def recent : Rule where
  name := "recent"
  condition := asksRecent
  template := "SELECT TOP 10 ProjectName, Value, Status, Type, CreatedAt FROM tenderTender WHERE " ++
    notDeleted ++ " ORDER BY CreatedAt DESC"

def countUsers : Rule where
  name := "count_users"
  condition := .both asksCount asksUsers
  template := "SELECT COUNT(*) AS TotalUsers FROM tenderEmployee"

def countContacts : Rule where
  name := "count_contacts"
  condition := .both asksCount asksContacts
  template := "SELECT COUNT(*) AS TotalContacts FROM tenderContact WHERE " ++ notDeleted

def countCompanies : Rule where
  name := "count_companies"
  condition := .both asksCount asksCompanies
  template := "SELECT COUNT(*) AS TotalCompanies FROM tenderCompany"

def countTenders : Rule where
  name := "count_tenders"
  condition := asksCount
  template := "SELECT COUNT(*) AS TotalTenders FROM tenderTender WHERE " ++ notDeleted

def tendersByType : Rule where
  name := "tenders_by_type"
  condition := .mentions ["by type", "per type", "each type"]
  template := "SELECT Type AS TenderType, COUNT(*) AS TenderCount FROM tenderTender WHERE " ++
    notDeleted ++ " GROUP BY Type ORDER BY TenderCount DESC"

def tendersByStatus : Rule where
  name := "tenders_by_status"
  condition := .mentions ["by status", "per status", "each status"]
  template := "SELECT Status AS TenderStatus, COUNT(*) AS TenderCount FROM tenderTender WHERE " ++
    notDeleted ++ " GROUP BY Status ORDER BY TenderCount DESC"

def users : Rule where
  name := "users"
  condition := asksUsers
  template := "SELECT TOP 20 UserID, Name, Email, LastLogin FROM tenderEmployee ORDER BY LastLogin DESC"

def contacts : Rule where
  name := "contacts"
  condition := asksContacts
  template := "SELECT TOP 20 FirstName, Surname, Email, Phone, Status FROM tenderContact WHERE " ++
    notDeleted ++ " ORDER BY CreatedAt DESC"

def companies : Rule where
  name := "companies"
  condition := asksCompanies
  template := "SELECT TOP 20 Name, Phone, Email FROM tenderCompany ORDER BY CreatedAt DESC"

def recentTenders : Rule where
  name := "recent_tenders"
  condition := .always
  template := "SELECT TOP 10 " ++ tenderColumns ++ " FROM tenderTender WHERE " ++ notDeleted ++
    " ORDER BY CreatedAt DESC"

def defaultRules : List Rule :=
  [biggestPositiveInYear, biggestPositive, biggestInYear, biggest, recent, countUsers, countContacts,
   countCompanies, countTenders, tendersByType, tendersByStatus, users, contacts, companies,
   recentTenders]

end TenderQuery.Fallback
