import Scaffold.Template.Body

/-!
The standard templates of the views of a model and of the layout that they extend.
-/
namespace Scaffold.Template.Standard

open Hole

/-- The view of all rows, up to the head of the table. -/
def indexHead : Body := endedLines [
  ["\x7b% extends \"", layout, "\" %\x7d"],
  [],
  ["\x7b% block title %\x7d", modelTitlePlural, "\x7b% endblock %\x7d"],
  [],
  ["\x7b% block content %\x7d"],
  ["<div class=\"page-header d-print-none\">"],
  ["  <div class=\"container-xl\">"],
  ["    <div class=\"row g-2 align-items-center\">"],
  ["      <div class=\"col\">"],
  ["        <h2 class=\"page-title\">", modelTitlePlural, "</h2>"],
  ["      </div>"],
  ["      <div class=\"col-auto ms-auto d-print-none\">"],
  ["        <a href=\"/", routeName, "/create\" class=\"btn btn-primary\">Create ", modelTitle,
   "</a>"],
  ["      </div>"],
  ["    </div>"],
  ["  </div>"],
  ["</div>"],
  ["<div class=\"page-body\">"],
  ["  <div class=\"container-xl\">"],
  ["    <div class=\"card\">"],
  ["      <div class=\"table-responsive\">"],
  ["        <table class=\"table card-table table-vcenter text-nowrap datatable\">"],
  ["          <thead>"],
  ["            <tr>"],
  ["              <th class=\"w-1\">No.</th>"],
  [tableHeader],
  ["              <th class=\"w-1\"></th>"],
  ["            </tr>"],
  ["          </thead>"]]

/-- The view of all rows, from the first row. -/
def indexRows : Body := endedLines [
  ["          <tbody>"],
  ["            \x7b% for ", modelNameLowerCase, " in ", modelNamePluralLowerCase, " %\x7d"],
  ["            <tr>"],
  ["              <td>\x7b\x7b loop.index \x7d\x7d</td>"],
  [tableBody],
  ["              <td>"],
  ["                <div class=\"btn-list flex-nowrap\">"],
  ["                  <a class=\"btn btn-sm\" href=\"/", routeName, "/\x7b\x7b ",
   modelNameLowerCase, ".", primaryKey, " \x7d\x7d\">View</a>"],
  ["                  <a class=\"btn btn-sm\" href=\"/", routeName, "/\x7b\x7b ",
   modelNameLowerCase, ".", primaryKey, " \x7d\x7d/edit\">Edit</a>"],
  ["                  <form method=\"post\" action=\"/", routeName, "/\x7b\x7b ",
   modelNameLowerCase, ".", primaryKey, " \x7d\x7d/delete\""],
  ["                        onsubmit=\"return confirm('Delete this ", modelTitle, "?');\">"],
  ["                    <button type=\"submit\" class=\"btn btn-sm btn-danger\">Delete</button>"],
  ["                  </form>"],
  ["                </div>"],
  ["              </td>"],
  ["            </tr>"],
  ["            \x7b% else %\x7d"],
  ["            <tr>"],
  ["              <td colspan=\"100\" class=\"text-center text-muted\">No ", modelTitlePlural,
   " yet.</td>"],
  ["            </tr>"],
  ["            \x7b% endfor %\x7d"],
  ["          </tbody>"],
  ["        </table>"],
  ["      </div>"],
  ["    </div>"],
  ["  </div>"],
  ["</div>"],
  ["\x7b% endblock %\x7d"]]

/-- The view with an empty form. -/
def createView : Body := endedLines [
  ["\x7b% extends \"", layout, "\" %\x7d"],
  [],
  ["\x7b% block title %\x7dCreate ", modelTitle, "\x7b% endblock %\x7d"],
  [],
  ["\x7b% block content %\x7d"],
  ["<div class=\"page-body\">"],
  ["  <div class=\"container-xl\">"],
  ["    <div class=\"card\">"],
  ["      <div class=\"card-header\">"],
  ["        <h3 class=\"card-title\">Create ", modelTitle, "</h3>"],
  ["      </div>"],
  ["      <div class=\"card-body\">"],
  ["        <form method=\"post\" action=\"/", routeName, "\" enctype=\"multipart/form-data\">"],
  ["          \x7b% include \"", modelView, "/form", viewExtension, "\" %\x7d"],
  ["        </form>"],
  ["      </div>"],
  ["    </div>"],
  ["  </div>"],
  ["</div>"],
  ["\x7b% endblock %\x7d"]]

/-- The view with the form of a row. -/
def editView : Body := endedLines [
  ["\x7b% extends \"", layout, "\" %\x7d"],
  [],
  ["\x7b% block title %\x7dEdit ", modelTitle, "\x7b% endblock %\x7d"],
  [],
  ["\x7b% block content %\x7d"],
  ["<div class=\"page-body\">"],
  ["  <div class=\"container-xl\">"],
  ["    <div class=\"card\">"],
  ["      <div class=\"card-header\">"],
  ["        <h3 class=\"card-title\">Edit ", modelTitle, "</h3>"],
  ["      </div>"],
  ["      <div class=\"card-body\">"],
  ["        <form method=\"post\" action=\"/", routeName, "/\x7b\x7b ", modelNameLowerCase, ".",
   primaryKey, " \x7d\x7d\""],
  ["              enctype=\"multipart/form-data\">"],
  ["          \x7b% include \"", modelView, "/form", viewExtension, "\" %\x7d"],
  ["        </form>"],
  ["      </div>"],
  ["    </div>"],
  ["  </div>"],
  ["</div>"],
  ["\x7b% endblock %\x7d"]]

/-- The form, as the other views include it. -/
def formView : Body := endedLines [
  ["\x7b% if errors %\x7d"],
  ["<div class=\"alert alert-danger\">"],
  ["  <ul class=\"mb-0\">"],
  ["    \x7b% for error in errors %\x7d<li>\x7b\x7b error \x7d\x7d</li>\x7b% endfor %\x7d"],
  ["  </ul>"],
  ["</div>"],
  ["\x7b% endif %\x7d"],
  [form],
  ["<div class=\"form-footer\">"],
  ["  <a href=\"/", routeName, "\" class=\"btn btn-link\">Cancel</a>"],
  ["  <button type=\"submit\" class=\"btn btn-primary\">Submit</button>"],
  ["</div>"]]

/-- The view of one row. -/
def showView : Body := endedLines [
  ["\x7b% extends \"", layout, "\" %\x7d"],
  [],
  ["\x7b% block title %\x7d", modelTitle, "\x7b% endblock %\x7d"],
  [],
  ["\x7b% block content %\x7d"],
  ["<div class=\"page-body\">"],
  ["  <div class=\"container-xl\">"],
  ["    <div class=\"card\">"],
  ["      <div class=\"card-header\">"],
  ["        <h3 class=\"card-title\">", modelTitle, " Details</h3>"],
  ["        <div class=\"card-actions\">"],
  ["          <a href=\"/", routeName, "\" class=\"btn btn-link\">Back</a>"],
  ["        </div>"],
  ["      </div>"],
  ["      <div class=\"card-body\">"],
  ["        <dl class=\"row\">"],
  [viewRows],
  ["        </dl>"],
  ["      </div>"],
  ["    </div>"],
  ["  </div>"],
  ["</div>"],
  ["\x7b% endblock %\x7d"]]

/-- The layout of a project that has none. -/
def layoutView : Body := endedLines [
  ["<!doctype html>"],
  ["<html lang=\"en\">"],
  ["<head>"],
  ["  <meta charset=\"utf-8\">"],
  ["  <meta name=\"viewport\" content=\"width=device-width, initial-scale=1\">"],
  ["  <title>\x7b% block title %\x7d\x7b% endblock %\x7d</title>"],
  ["  <link rel=\"stylesheet\" href=\"https://cdn.jsdelivr.net/npm/@tabler/core@latest/dist/css/tabler.min.css\">"],
  ["</head>"],
  ["<body>"],
  ["  <div class=\"page\">"],
  ["    <div class=\"page-wrapper\">"],
  ["      \x7b% block content %\x7d\x7b% endblock %\x7d"],
  ["    </div>"],
  ["  </div>"],
  ["  <script src=\"https://cdn.jsdelivr.net/npm/@tabler/core@latest/dist/js/tabler.min.js\"></script>"],
  ["</body>"],
  ["</html>"]]

/-- The view of all rows. -/
def indexView : Body :=
  indexHead ++ indexRows

end Scaffold.Template.Standard
