import Scaffold.Template.Body

/-!
The standard templates of single fields: in the table of rows, in the view of one row, and in the
form, where each kind of field has its own input.
-/
namespace Scaffold.Template.Standard

open Hole

/-- The head of a column in the view of all rows. -/
def headField : Body := joinedLines [
  ["              <th>", title, "</th>"]]

/-- The cell of a field in the view of all rows. -/
def cellField : Body := joinedLines [
  ["              <td>\x7b\x7b ", modelNameLowerCase, ".", column, " \x7d\x7d</td>"]]

/-- A field in the view of one row. -/
def viewField : Body := joinedLines [
  ["          <dt class=\"col-3\">", title, "</dt>"],
  ["          <dd class=\"col-9\">\x7b\x7b ", modelNameLowerCase, ".", column, " \x7d\x7d</dd>"]]

/-- The form input of a text field. -/
def textInput : Body := joinedLines [
  ["<div class=\"mb-3\">"],
  ["  <label class=\"form-label\" for=\"", column, "\">", title, "</label>"],
  ["  <input type=\"text\" class=\"form-control\" id=\"", column, "\" name=\"", column,
   "\" value=\"\x7b\x7b ", modelNameLowerCase, "['", column, "'] if ", modelNameLowerCase,
   " is mapping else (", modelNameLowerCase, ".", column, " if ", modelNameLowerCase,
   " else '') \x7d\x7d\">"],
  ["</div>"]]

/-- The form input of a number field. -/
def numberInput : Body := joinedLines [
  ["<div class=\"mb-3\">"],
  ["  <label class=\"form-label\" for=\"", column, "\">", title, "</label>"],
  ["  <input type=\"number\" class=\"form-control\" id=\"", column, "\" name=\"", column,
   "\" value=\"\x7b\x7b ", modelNameLowerCase, "['", column, "'] if ", modelNameLowerCase,
   " is mapping else (", modelNameLowerCase, ".", column, " if ", modelNameLowerCase,
   " else '') \x7d\x7d\">"],
  ["</div>"]]

/-- The form input of a date field. -/
def dateInput : Body := joinedLines [
  ["<div class=\"mb-3\">"],
  ["  <label class=\"form-label\" for=\"", column, "\">", title, "</label>"],
  ["  <input type=\"date\" class=\"form-control\" id=\"", column, "\" name=\"", column,
   "\" value=\"\x7b\x7b ", modelNameLowerCase, "['", column, "'] if ", modelNameLowerCase,
   " is mapping else (", modelNameLowerCase, ".", column, " if ", modelNameLowerCase,
   " else '') \x7d\x7d\">"],
  ["</div>"]]

/-- The form input of a datetime field. -/
def datetimeInput : Body := joinedLines [
  ["<div class=\"mb-3\">"],
  ["  <label class=\"form-label\" for=\"", column, "\">", title, "</label>"],
  ["  <input type=\"datetime-local\" class=\"form-control\" id=\"", column, "\" name=\"", column,
   "\" value=\"\x7b\x7b ", modelNameLowerCase, "['", column, "'] if ", modelNameLowerCase,
   " is mapping else (", modelNameLowerCase, ".", column, " if ", modelNameLowerCase,
   " else '') \x7d\x7d\">"],
  ["</div>"]]

/-- The form input of a time field. -/
def timeInput : Body := joinedLines [
  ["<div class=\"mb-3\">"],
  ["  <label class=\"form-label\" for=\"", column, "\">", title, "</label>"],
  ["  <input type=\"time\" class=\"form-control\" id=\"", column, "\" name=\"", column,
   "\" value=\"\x7b\x7b ", modelNameLowerCase, "['", column, "'] if ", modelNameLowerCase,
   " is mapping else (", modelNameLowerCase, ".", column, " if ", modelNameLowerCase,
   " else '') \x7d\x7d\">"],
  ["</div>"]]

/-- The form input of a textarea field. -/
def textareaInput : Body := joinedLines [
  ["<div class=\"mb-3\">"],
  ["  <label class=\"form-label\" for=\"", column, "\">", title, "</label>"],
  ["  <textarea class=\"form-control\" id=\"", column, "\" name=\"", column,
   "\" rows=\"4\">\x7b\x7b ", modelNameLowerCase, "['", column, "'] if ", modelNameLowerCase,
   " is mapping else (", modelNameLowerCase, ".", column, " if ", modelNameLowerCase,
   " else '') \x7d\x7d</textarea>"],
  ["</div>"]]

/-- The form input of a boolean field. -/
def booleanInput : Body := joinedLines [
  ["<div class=\"mb-3\">"],
  ["  <input type=\"hidden\" name=\"", column, "\" value=\"0\">"],
  ["  <label class=\"form-check\">"],
  ["    <input type=\"checkbox\" class=\"form-check-input\" id=\"", column, "\" name=\"", column,
   "\" value=\"1\" \x7b% if ", modelNameLowerCase, "['", column, "'] if ", modelNameLowerCase,
   " is mapping else (", modelNameLowerCase, ".", column, " if ", modelNameLowerCase,
   " else '') %\x7dchecked\x7b% endif %\x7d>"],
  ["    <span class=\"form-check-label\">", title, "</span>"],
  ["  </label>"],
  ["</div>"]]

/-- The form input of a file field. -/
def fileInput : Body := joinedLines [
  ["<div class=\"mb-3\">"],
  ["  <label class=\"form-label\" for=\"", column, "\">", title, "</label>"],
  ["  <input type=\"file\" class=\"form-control\" id=\"", column, "\" name=\"", column, "\">"],
  ["</div>"]]

end Scaffold.Template.Standard
