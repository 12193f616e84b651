/-!
# Skeletons of generated modules

The fixed text of a service module and of a route module, line by line. In both,
braces are written `‹` and `›`, so a placeholder reads `‹‹slug››`.
-/

namespace ServiceLoom.Template

/-- The character that stands for another one in the lines below. -/
def braceChar (c : Char) : Char :=
  if c = '‹' then '\x7b' else if c = '›' then '\x7d' else c

/-- The text of the lines, with braces in place and a line break after every
line. -/
def textOfLines (lines : List String) : String :=
  String.join (lines.map fun line =>
    String.ofList (line.toList.map braceChar) ++ "\n")

/-- The first line of every generated file. -/
def generatedHeader : String :=
  "// Generated by erpforge. Do not edit by hand.\n"

/-- The lines of a service. -/
def serviceLines : List String :=
  ["// Generated by erpforge. Do not edit by hand.",
   "#![allow(unused_imports, unused_mut, unused_variables)]",
   "",
   "use std::sync::‹Arc, LazyLock›;",
   "",
   "use erpforge_core::ops;",
   "use erpforge_core::‹",
   "    merged, record_id, DeleteGuard, DependentSpec, FieldKind, FieldRule, Record, Repository,",
   "    RuleSet, ServiceError, WriteMode,",
   "›;",
   "",
   "/// CRUD service for `‹‹slug››` rows.",
   "pub struct ‹‹EntityName››Service ‹",
   "    repo: Arc<dyn Repository>,",
   "›",
   "",
   "impl ‹‹EntityName››Service ‹",
   "    pub const SLUG: &'static str = ‹‹slug_literal››;",
   "",
   "    pub fn new(repo: Arc<dyn Repository>) -> Self ‹",
   "        Self ‹ repo ›",
   "    ›",
   "",
   "    pub fn list(&self) -> Result<Vec<Record>, ServiceError> ‹",
   "        self.repo.find_all(Self::SLUG)",
   "    ›",
   "",
   "    pub fn get(&self, id: &str) -> Result<Record, ServiceError> ‹",
   "        self.repo",
   "            .find_by_id(Self::SLUG, id)?",
   "            .ok_or_else(|| not_found(id))",
   "    ›",
   "",
   "    pub fn create(&self, mut data: Record) -> Result<Record, ServiceError> ‹",
   "        let repo = self.repo.as_ref();",
   "        // @HOOK: BEFORE_CREATE_VALIDATION",
   "        // @HOOK: BEFORE_CREATE_TRANSFORMATION",
   "        let result = repo.create(Self::SLUG, data)?;",
   "        // @HOOK: AFTER_CREATE_LOGGING",
   "        Ok(result)",
   "    ›",
   "",
   "    pub fn update(&self, id: &str, mut data: Record) -> Result<Record, ServiceError> ‹",
   "        let repo = self.repo.as_ref();",
   "        let existing = self.get(id)?;",
   "        // @HOOK: BEFORE_UPDATE_VALIDATION",
   "        let result = repo",
   "            .update(Self::SLUG, id, data)?",
   "            .ok_or_else(|| not_found(id))?;",
   "        // @HOOK: AFTER_UPDATE_LOGGING",
   "        Ok(result)",
   "    ›",
   "",
   "    pub fn delete(&self, id: &str) -> Result<(), ServiceError> ‹",
   "        let repo = self.repo.as_ref();",
   "        let existing = self.get(id)?;",
   "        // @HOOK: BEFORE_DELETE_VALIDATION",
   "        if !repo.delete(Self::SLUG, id)? ‹",
   "            return Err(not_found(id));",
   "        ›",
   "        // @HOOK: AFTER_DELETE_LOGGING",
   "        Ok(())",
   "    ›",
   "",
   "    // @HOOK: ADDITIONAL_METHODS",
   "›",
   "",
   "fn not_found(id: &str) -> ServiceError ‹",
   "    ServiceError::NotFound(format!(\"‹› '‹›' not found\", ‹‹EntityName››Service::SLUG, id))",
   "›"]

/-- The lines of the routes of a service. -/
def routesLines : List String :=
  ["// Generated by erpforge. Do not edit by hand.",
   "use std::sync::Arc;",
   "",
   "use axum::extract::‹Path, State›;",
   "use axum::http::StatusCode;",
   "use axum::routing::get;",
   "use axum::‹Json, Router›;",
   "use erpforge_core::‹Record, ServiceError›;",
   "",
   "use crate::services::‹‹module››::‹‹EntityName››Service;",
   "",
   "type Svc = State<Arc<‹‹EntityName››Service>>;",
   "",
   "pub fn routes(service: Arc<‹‹EntityName››Service>) -> Router ‹",
   "    Router::new()",
   "        .route(‹‹route››, get(list_handler).post(create_handler))",
   "        .route(",
   "            ‹‹item_route››,",
   "            get(get_handler).put(update_handler).delete(delete_handler),",
   "        )",
   "        .with_state(service)",
   "›",
   "",
   "async fn list_handler(State(svc): Svc) -> Result<Json<Vec<Record>>, ServiceError> ‹",
   "    Ok(Json(svc.list()?))",
   "›",
   "",
   "async fn get_handler(State(svc): Svc, Path(id): Path<String>) -> Result<Json<Record>, ServiceError> ‹",
   "    Ok(Json(svc.get(&id)?))",
   "›",
   "",
   "async fn create_handler(",
   "    State(svc): Svc,",
   "    Json(body): Json<Record>,",
   ") -> Result<(StatusCode, Json<Record>), ServiceError> ‹",
   "    Ok((StatusCode::CREATED, Json(svc.create(body)?)))",
   "›",
   "",
   "async fn update_handler(",
   "    State(svc): Svc,",
   "    Path(id): Path<String>,",
   "    Json(body): Json<Record>,",
   ") -> Result<Json<Record>, ServiceError> ‹",
   "    Ok(Json(svc.update(&id, body)?))",
   "›",
   "",
   "async fn delete_handler(State(svc): Svc, Path(id): Path<String>) -> Result<StatusCode, ServiceError> ‹",
   "    svc.delete(&id)?;",
   "    Ok(StatusCode::NO_CONTENT)",
   "›"]

/-- The skeleton of a service. -/
def serviceSkeleton : String := textOfLines serviceLines

/-- The skeleton of the routes of a service. -/
def routesSkeleton : String := textOfLines routesLines

end ServiceLoom.Template
