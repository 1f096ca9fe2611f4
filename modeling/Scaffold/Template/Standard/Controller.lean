import Scaffold.Template.Body

/-!
The standard template of a controller: a class with one handler for each action on a resource.
-/
namespace Scaffold.Template.Standard

open Hole

/-- What a controller uses. -/
def imports : Body := endedLines [
  ["\"\"\"CRUD controller for ", modelTitlePlural, " (table `", tableName, "`).\"\"\""],
  [],
  ["from typing import Any, Dict, List"],
  [],
  ["from fastapi import APIRouter, Depends, HTTPException, Request, status"],
  ["from fastapi.responses import HTMLResponse, RedirectResponse"],
  ["from fastapi.templating import Jinja2Templates"],
  ["from sqlalchemy import select"],
  ["from sqlalchemy.orm import Session"],
  [],
  ["from app.database import get_db"],
  ["from ", modelNamespace, ".", modelModule, " import ", modelName],
  [],
  ["templates = Jinja2Templates(directory=\"", viewsDir, "\")"],
  [],
  []]

/-- Functions that read a form and check it. -/
def formFunctions : Body := endedLines [
  ["def _form_data(raw: Any) -> Dict[str, Any]:"],
  ["    data: Dict[str, Any] = \x7b\x7d"],
  ["    for field in ", modelName, ".fillable:"],
  ["        value = raw.get(field)"],
  ["        data[field] = value if value != \"\" else None"],
  ["    return data"],
  [],
  [],
  ["def _validate(data: Dict[str, Any]) -> List[str]:"],
  ["    errors: List[str] = []"],
  ["    for field, rule in ", modelName, ".rules.items():"],
  ["        if \"required\" in rule.split(\"|\") and data.get(field) in (None, \"\"):"],
  ["            errors.append(f\"The \x7bfield\x7d field is required.\")"],
  ["    return errors"],
  [],
  []]

/-- The function that finds a row. -/
def rowFunction : Body := endedLines [
  ["def _get_or_404(db: Session, pk: int) -> ", modelName, ":"],
  ["    ", modelNameLowerCase, " = db.get(", modelName, ", pk)"],
  ["    if ", modelNameLowerCase, " is None:"],
  ["        raise HTTPException(status_code=status.HTTP_404_NOT_FOUND, detail=\"", modelTitle,
   " not found\")"],
  ["    return ", modelNameLowerCase],
  [],
  []]

/-- The class of a controller and its handler for the list of rows. -/
def listHandler : Body := endedLines [
  ["class ", modelName, "Controller:"],
  ["    \"\"\"Resource controller mounted at /", routeName, ".\"\"\""],
  [],
  ["    router = APIRouter(prefix=\"/", routeName, "\", tags=[\"", routeName, "\"])"],
  [],
  ["    @staticmethod"],
  ["    @router.get(\"/\", response_class=HTMLResponse, name=\"", routeName, ".index\")"],
  ["    def index(request: Request, db: Session = Depends(get_db)):"],
  ["        ", modelNamePluralLowerCase, " = db.scalars(select(", modelName, ")).all()"],
  ["        return templates.TemplateResponse("],
  ["            request,"],
  ["            \"", modelView, "/index", viewExtension, "\","],
  ["            \x7b\"", modelNamePluralLowerCase, "\": ", modelNamePluralLowerCase, "\x7d,"],
  ["        )"],
  []]

/-- The handler for an empty form. -/
def createHandler : Body := endedLines [
  ["    @staticmethod"],
  ["    @router.get(\"/create\", response_class=HTMLResponse, name=\"", routeName, ".create\")"],
  ["    def create(request: Request):"],
  ["        return templates.TemplateResponse("],
  ["            request,"],
  ["            \"", modelView, "/create", viewExtension, "\","],
  ["            \x7b\"", modelNameLowerCase, "\": None, \"errors\": []\x7d,"],
  ["        )"],
  []]

/-- The handler that stores a new row. -/
def storeHandler : Body := endedLines [
  ["    @staticmethod"],
  ["    @router.post(\"/\", name=\"", routeName, ".store\")"],
  ["    async def store(request: Request, db: Session = Depends(get_db)):"],
  ["        data = _form_data(await request.form())"],
  ["        errors = _validate(data)"],
  ["        if errors:"],
  ["            return templates.TemplateResponse("],
  ["                request,"],
  ["                \"", modelView, "/create", viewExtension, "\","],
  ["                \x7b\"", modelNameLowerCase, "\": data, \"errors\": errors\x7d,"],
  ["                status_code=status.HTTP_422_UNPROCESSABLE_ENTITY,"],
  ["            )"],
  ["        db.add(", modelName, "(**data))"],
  ["        db.commit()"],
  ["        return RedirectResponse(\"/", routeName, "\", status_code=status.HTTP_303_SEE_OTHER)"],
  []]

/-- The handler for one row. -/
def showHandler : Body := endedLines [
  ["    @staticmethod"],
  ["    @router.get(\"/\x7bpk\x7d\", response_class=HTMLResponse, name=\"", routeName, ".show\")"],
  ["    def show(pk: int, request: Request, db: Session = Depends(get_db)):"],
  ["        return templates.TemplateResponse("],
  ["            request,"],
  ["            \"", modelView, "/show", viewExtension, "\","],
  ["            \x7b\"", modelNameLowerCase, "\": _get_or_404(db, pk)\x7d,"],
  ["        )"],
  []]

/-- The handler for the form of a row. -/
def editHandler : Body := endedLines [
  ["    @staticmethod"],
  ["    @router.get(\"/\x7bpk\x7d/edit\", response_class=HTMLResponse, name=\"", routeName,
   ".edit\")"],
  ["    def edit(pk: int, request: Request, db: Session = Depends(get_db)):"],
  ["        return templates.TemplateResponse("],
  ["            request,"],
  ["            \"", modelView, "/edit", viewExtension, "\","],
  ["            \x7b\"", modelNameLowerCase, "\": _get_or_404(db, pk), \"errors\": []\x7d,"],
  ["        )"],
  []]

/-- The handler that changes a row. -/
def updateHandler : Body := endedLines [
  ["    @staticmethod"],
  ["    @router.post(\"/\x7bpk\x7d\", name=\"", routeName, ".update\")"],
  ["    async def update(pk: int, request: Request, db: Session = Depends(get_db)):"],
  ["        ", modelNameLowerCase, " = _get_or_404(db, pk)"],
  ["        data = _form_data(await request.form())"],
  ["        errors = _validate(data)"],
  ["        if errors:"],
  ["            return templates.TemplateResponse("],
  ["                request,"],
  ["                \"", modelView, "/edit", viewExtension, "\","],
  ["                \x7b\"", modelNameLowerCase, "\": ", modelNameLowerCase,
   ", \"errors\": errors\x7d,"],
  ["                status_code=status.HTTP_422_UNPROCESSABLE_ENTITY,"],
  ["            )"],
  ["        for field, value in data.items():"],
  ["            setattr(", modelNameLowerCase, ", field, value)"],
  ["        db.commit()"],
  ["        return RedirectResponse(\"/", routeName, "\", status_code=status.HTTP_303_SEE_OTHER)"],
  []]

/-- The handler that deletes a row. -/
def destroyHandler : Body := endedLines [
  ["    @staticmethod"],
  ["    @router.post(\"/\x7bpk\x7d/delete\", name=\"", routeName, ".destroy\")"],
  ["    def destroy(pk: int, db: Session = Depends(get_db)):"],
  ["        db.delete(_get_or_404(db, pk))"],
  ["        db.commit()"],
  ["        return RedirectResponse(\"/", routeName, "\", status_code=status.HTTP_303_SEE_OTHER)"]]

/-- The controller of a model. -/
def controller : Body :=
  imports ++ formFunctions ++ rowFunction ++ listHandler ++ createHandler ++ storeHandler ++
    showHandler ++ editHandler ++ updateHandler ++ destroyHandler

end Scaffold.Template.Standard
