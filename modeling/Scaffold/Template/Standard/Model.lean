import Scaffold.Template.Body

/-!
The standard template of a model: a class with the columns of a table.
-/
namespace Scaffold.Template.Standard

open Hole

/-- The model over a table. -/
def model : Body := endedLines [
  ["\"\"\"", modelName, " model over the `", tableName, "` table.\"\"\""],
  [],
  ["from datetime import date, datetime, time"],
  ["from decimal import Decimal"],
  ["from typing import ClassVar, Dict, List, Optional"],
  [],
  ["from sqlalchemy import Boolean, Date, DateTime, Float, Integer, LargeBinary, Numeric, String, Text, Time"],
  ["from sqlalchemy.orm import Mapped, mapped_column"],
  [],
  ["from app.database import Base", softDeletesImport],
  [],
  [],
  ["class ", modelName, "(", softDeletes, "Base):"],
  ["    __tablename__ = \"", tableName, "\""],
  [],
  [columns],
  [],
  ["    fillable: ClassVar[List[str]] = ", fillable],
  [],
  ["    rules: ClassVar[Dict[str, str]] = ", rules],
  [],
  ["    def __repr__(self) -> str:"],
  ["        return f\"<", modelName, " ", primaryKey, "=\x7bself.", primaryKey, "!r\x7d>\""]]

end Scaffold.Template.Standard
