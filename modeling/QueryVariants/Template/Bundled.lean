import QueryVariants.Text.Lines

/-!
# Bundled templates

The query templates that are always available, by query number, line by line.
-/

namespace QueryVariants.Template.Bundled

open Text (unlines)

/-- Brand revenue for a manufacturer in the holiday months. -/
def query3 : String := unlines [
  "--",
  "-- Brand revenue for a manufacturer in the holiday months.",
  "--",
  " define AGGC= text(\x7b\"ss_ext_sales_price\",1\x7d,\x7b\"ss_sales_price\",1\x7d,\x7b\"ss_ext_discount_amt\",1\x7d,\x7b\"ss_net_profit\",1\x7d);",
  " define MONTH = random(11,12,uniform);",
  " define MANUFACT= random(1,1000,uniform);",
  " define _LIMIT=100;",
  "",
  " [_LIMITA] select [_LIMITB] dt.d_year",
  "       ,item.i_brand_id brand_id",
  "       ,item.i_brand brand",
  "       ,sum([AGGC]) sum_agg",
  " from  date_dim dt",
  "      ,store_sales",
  "      ,item",
  " where dt.d_date_sk = store_sales.ss_sold_date_sk",
  "   and store_sales.ss_item_sk = item.i_item_sk",
  "   and item.i_manufact_id = [MANUFACT]",
  "   and dt.d_moy=[MONTH]",
  " group by dt.d_year",
  "      ,item.i_brand",
  "      ,item.i_brand_id",
  " order by dt.d_year",
  "         ,sum_agg desc",
  "         ,brand_id",
  " [_LIMITC];"]

/-- States with customers buying items priced well above their category average. -/
def query6 : String := unlines [
  "--",
  "-- States with customers buying items priced well above their category average.",
  "--",
  " define YEAR = random(1998,2002,uniform);",
  " define MONTH= random(1,7,uniform);",
  " define COUNTY = random(1, rowcount(\"active_counties\", \"store\"), uniform);",
  " define STATE = distmember(fips_county, [COUNTY], 3);",
  " define _LIMIT=100;",
  "",
  " [_LIMITA] select [_LIMITB] a.ca_state state, count(*) cnt",
  " from customer_address a",
  "     ,customer c",
  "     ,store_sales s",
  "     ,date_dim d",
  "     ,item i",
  " where       a.ca_address_sk = c.c_current_addr_sk",
  " \tand c.c_customer_sk = s.ss_customer_sk",
  " \tand s.ss_sold_date_sk = d.d_date_sk",
  " \tand s.ss_item_sk = i.i_item_sk",
  " \tand a.ca_state <> '[STATE]'",
  " \tand d.d_month_seq =",
  " \t     (select distinct (d_month_seq)",
  " \t      from date_dim",
  "               where d_year = [YEAR]",
  " \t        and d_moy = [MONTH] )",
  " \tand i.i_current_price > 1.2 *",
  "             (select avg(j.i_current_price)",
  " \t     from item j",
  " \t     where j.i_category = i.i_category)",
  " group by a.ca_state",
  " having count(*) >= 10",
  " order by cnt, a.ca_state",
  " [_LIMITC];"]

/-- Average sales figures for one demographic slice. -/
def query7 : String := unlines [
  "--",
  "-- Average sales figures for one demographic slice.",
  "--",
  " define YEAR = random(1998,2002,uniform);",
  " define ES= dist(education, 1, 1);",
  " define MS= dist(marital_status, 1, 1);",
  " define GEN= dist(gender, 1, 1);",
  " define _LIMIT=100;",
  "",
  " [_LIMITA] select [_LIMITB] i_item_id,",
  "        avg(ss_quantity) agg1,",
  "        avg(ss_list_price) agg2,",
  "        avg(ss_coupon_amt) agg3,",
  "        avg(ss_sales_price) agg4",
  " from store_sales, customer_demographics, date_dim, item, promotion",
  " where ss_sold_date_sk = d_date_sk and",
  "       ss_item_sk = i_item_sk and",
  "       ss_cdemo_sk = cd_demo_sk and",
  "       ss_promo_sk = p_promo_sk and",
  "       cd_gender = '[GEN]' and",
  "       cd_marital_status = '[MS]' and",
  "       cd_education_status = '[ES]' and",
  "       (p_channel_email = 'N' or p_channel_event = 'N') and",
  "       d_year = [YEAR]",
  " group by i_item_id",
  " order by i_item_id",
  " [_LIMITC];"]

/-- Catalog revenue share per item class for a few categories over 30 days. -/
def query20 : String := unlines [
  "--",
  "-- Catalog revenue share per item class for a few categories over 30 days.",
  "--",
  " define YEAR=random(1998,2002,uniform);",
  " define SDATE=date([YEAR]+\"-01-01\",[YEAR]+\"-07-01\",sales);",
  " define CATEGORY=ulist(dist(categories,1,1),3);",
  " define CINDX = random(1, rowcount(\"categories\"), uniform);",
  " define EXTRA = dist(distmember(categories,[CINDX],2),1,1);",
  " define _LIMIT=100;",
  "",
  " [_LIMITA] select [_LIMITB] i_item_id",
  "       ,i_item_desc",
  "       ,i_category",
  "       ,i_class",
  "       ,i_current_price",
  "       ,sum(cs_ext_sales_price) as itemrevenue",
  "       ,sum(cs_ext_sales_price)*100/sum(sum(cs_ext_sales_price)) over",
  "           (partition by i_class) as revenueratio",
  " from\tcatalog_sales",
  "     ,item",
  "     ,date_dim",
  " where cs_item_sk = i_item_sk",
  "   and i_category in ('[CATEGORY.1]', '[CATEGORY.2]', '[CATEGORY.3]', '[EXTRA]')",
  "   and cs_sold_date_sk = d_date_sk",
  " and d_date between cast('[SDATE]' as date)",
  " \t\t\t\tand (cast('[SDATE]' as date) + interval '30' day)",
  " group by i_item_id",
  "         ,i_item_desc",
  "         ,i_category",
  "         ,i_class",
  "         ,i_current_price",
  " order by i_category",
  "         ,i_class",
  "         ,i_item_id",
  "         ,i_item_desc",
  "         ,revenueratio",
  " [_LIMITC];"]

/-- Brand revenue for one month, restricted to a manager id band. -/
def query52 : String := unlines [
  "--",
  "-- Brand revenue for one month, restricted to a manager id band.",
  "--",
  " define MONTH=random(11,12,uniform);",
  " define YEAR=random(1998,2002,uniform);",
  " define MGR_IDX = dist(i_manager_id, 1, 1);",
  " define MANAGER = random(distmember(i_manager_id, [MGR_IDX], 2), distmember(i_manager_id, [MGR_IDX], 3), uniform);",
  " define _LIMIT=100;",
  "",
  " [_LIMITA] select [_LIMITB] dt.d_year",
  " \t,item.i_brand_id brand_id",
  " \t,item.i_brand brand",
  " \t,sum(ss_ext_sales_price) ext_price",
  " from date_dim dt",
  "     ,store_sales",
  "     ,item",
  " where dt.d_date_sk = store_sales.ss_sold_date_sk",
  "    and store_sales.ss_item_sk = item.i_item_sk",
  "    and item.i_manager_id = [MANAGER]",
  "    and dt.d_moy=[MONTH]",
  "    and dt.d_year=[YEAR]",
  " group by dt.d_year",
  " \t,item.i_brand",
  " \t,item.i_brand_id",
  " order by dt.d_year",
  " \t,ext_price desc",
  " \t,brand_id",
  " [_LIMITC];"]

/-- Customer spend net of returns for one return reason. -/
def query93 : String := unlines [
  "--",
  "-- Customer spend net of returns for one return reason.",
  "--",
  " define REASON= dist(return_reasons, 1, 1);",
  " define YEAR = random(1998,2002,uniform);",
  " define RDATE = date([YEAR]+\"-01-01\",[YEAR]+\"-12-31\",returns);",
  " define TICKETS = rowcount(\"store_sales\")/5;",
  " define _LIMIT=100;",
  "",
  " [_LIMITA] select [_LIMITB] ss_customer_sk",
  "            ,sum(act_sales) sumsales",
  "       from (select ss_item_sk",
  "                   ,ss_ticket_number",
  "                   ,ss_customer_sk",
  "                   ,case when sr_return_quantity is not null then (ss_quantity-sr_return_quantity)*ss_sales_price",
  "                                                            else (ss_quantity*ss_sales_price) end act_sales",
  "             from store_sales left outer join store_returns on (sr_item_sk = ss_item_sk",
  "                                                               and sr_ticket_number = ss_ticket_number)",
  "                 ,reason",
  "                 ,date_dim",
  "             where sr_reason_sk = r_reason_sk",
  "               and sr_returned_date_sk = d_date_sk",
  "               and d_date >= cast('[RDATE]' as date)",
  "               and ss_ticket_number <= [TICKETS]",
  "               and r_reason_desc = '[REASON]') t",
  "      group by ss_customer_sk",
  "      order by sumsales, ss_customer_sk",
  " [_LIMITC];"]

/-- All bundled templates in ascending order. -/
def templates : List (Nat × String) :=
  [(3, query3), (6, query6), (7, query7), (20, query20), (52, query52), (93, query93)]

end QueryVariants.Template.Bundled
