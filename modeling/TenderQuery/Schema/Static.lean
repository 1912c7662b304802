import TenderQuery.Schema.Table

/-!
# The tender database as it is known in advance

The tables with their columns, the relations between them and examples of questions with their statements.
They serve when the live schema is not wanted or cannot be read.
-/
set_option autoImplicit false
namespace TenderQuery.Schema

def staticTables : List (String × List String) :=
  [ ("tenderTender",
      ["TenderID", "KeyContact", "AddBy", "ProjectName", "OpenDate", "ApplyTo", "Value", "ReturnDate",
       "Status", "Type", "Source", "ManagingTender", "Consultant", "Notes", "CreatedAt", "UpdatedAt",
       "IsDeleted", "DeletedAt"]),
    ("tenderContact",
      ["ContactID", "CompanyID", "AddBy", "FirstName", "Surname", "Phone", "Email", "Status",
       "CreatedAt", "UpdatedAt", "IsDeleted", "DeletedAt"]),
    ("tenderCompany", ["CompanyID", "AddBy", "Name", "Phone", "Email", "CreatedAt", "UpdatedAt"]),
    ("tenderEmployee", ["UserID", "LastLogin", "Name", "Email"]) ]

def staticRelations : List String :=
  [ "tenderTender.KeyContact -> tenderContact.ContactID",
    "tenderContact.CompanyID -> tenderCompany.CompanyID",
    "tenderTender.AddBy -> tenderEmployee.UserID (AddBy stores UserID)",
    "tenderContact.AddBy -> tenderEmployee.UserID",
    "tenderCompany.AddBy -> tenderEmployee.UserID" ]

/-- Questions with the statements that answer them. -/
def staticExamples : List (String × String) :=
  [ ("What's the biggest tender?",
      "SELECT TOP 1 ProjectName, Value, Status, Type, OpenDate FROM tenderTender " ++
      "WHERE (IsDeleted = 0 OR IsDeleted IS NULL) ORDER BY Value DESC"),
    ("What's the biggest pharma tender?",
      "SELECT TOP 1 ProjectName, Value, Status, Type, OpenDate FROM tenderTender " ++
      "WHERE (IsDeleted = 0 OR IsDeleted IS NULL) AND Type = 'Pharma' ORDER BY Value DESC"),
    ("Show me all tenders",
      "SELECT TOP 20 ProjectName, Value, Status, Type, OpenDate FROM tenderTender " ++
      "WHERE (IsDeleted = 0 OR IsDeleted IS NULL) ORDER BY CreatedAt DESC"),
    ("How many tenders by type?",
      "SELECT Type AS TenderType, COUNT(*) AS TenderCount FROM tenderTender " ++
      "WHERE (IsDeleted = 0 OR IsDeleted IS NULL) GROUP BY Type ORDER BY TenderCount DESC"),
    ("Tenders added by Sarah",
      "SELECT t.ProjectName, t.Value, t.Status, t.Type, t.OpenDate, e.Name AS AddedBy " ++
      "FROM tenderTender t JOIN tenderEmployee e ON t.AddBy = e.UserID " ++
      "WHERE (t.IsDeleted = 0 OR t.IsDeleted IS NULL) AND e.Name LIKE '%Sarah%' " ++
      "ORDER BY t.CreatedAt DESC") ]

def staticSnapshot : Snapshot where
  tables := staticTables.map fun (name, columns) =>
    { name := name, columns := columns.map fun c => { name := c, logicalType := "unknown" } }

end TenderQuery.Schema
