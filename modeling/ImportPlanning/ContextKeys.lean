/-
The keys under which a plan is published, and the marks that are part of the agreement with later
stages.
-/

namespace ImportPlanning

namespace ContextKey

def driver : String := "sql_import.connection.driver"

def url : String := "sql_import.connection.url"

def username : String := "sql_import.connection.username"

def password : String := "sql_import.connection.password"

def partitionColumn : String := "sql_import.partition.column_name"

def partitionType : String := "sql_import.partition.column_type"

def minValue : String := "sql_import.partition.min_value"

def maxValue : String := "sql_import.partition.max_value"

def dataSql : String := "sql_import.data_sql"

def fieldNames : String := "sql_import.job.field_names"

end ContextKey
end ImportPlanning
